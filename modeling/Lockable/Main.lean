import Std.Time.Format
import Lockable.Command.Run

/-!
# The command line

Hands the command line, the environment and the configuration file to `Command.run` and carries out
what comes of it: prints what is to be printed and adds to the audit trail. Without a network of its
own, this program meets every request with a failure to connect.
-/

namespace Lockable.CommandLine

/-- A way to servers on which none is reached. -/
def unreachable : Http.Transport Unit := fun _ server =>
  (.error "All connection attempts failed", server)

/-- The variables of the environment that matter. -/
def variableNames : List String := ["LOCKDESK_CONFIG", "LOCKDESK_LOG_DIR", "LOCKDESK_RICH"]

/-- What the environment says. -/
def readEnvironment : IO (List (String × String)) := do
  let found ← variableNames.mapM fun name => do
    return (← IO.getEnv name).map fun value => (name, value)
  return found.filterMap id

/-- The path of the configuration that a command line and an environment name. -/
def configPath (environment : List (String × String)) (arguments : List String) : String :=
  let given := match Command.readGeneral arguments with
    | .as (general, _, _) => general.config
    | _ => none
  (SettingsStore.forPath given environment : SettingsStore Unit).path

/-- The configuration file, if it can be read. -/
def readFiles (path : String) : IO Files := do
  try
    let octets ← IO.FS.readBinFile path
    return Files.write path octets.toList {}
  catch _ => return {}

/-- What is printed, as lines. -/
def lines : Command.Printed → List String
  | .line text => [text]
  | .table title columns rows => title :: (columns :: rows).map fun cells => " | ".intercalate cells
  | .json value => [value.write]
  | .desk _ _ => ["The desk needs a terminal."]

/-- The seconds since the epoch. -/
def now : IO Int := do return (← Std.Time.Timestamp.now).toSecondsSinceUnixEpoch.val

/-- Renames a file if it is there. -/
def move (old new : String) : IO Unit := do
  try IO.FS.rename old new
  catch _ => pure ()

/-- Puts the open file of a log aside, as `Audit.Log.rollOver` does. -/
def putAside (log : String) : IO Unit := do
  for n in (List.range (Audit.keptAside - 1)).reverse do
    move s!"{log}.{n + 1}" s!"{log}.{n + 2}"
  move log (log ++ ".1")

/-- Adds records to the log of a directory, as made at this moment. -/
def append (directory : List String) (records : List Audit.Record) : IO Unit := do
  let created := Json.int (← now)
  let home := (← IO.getEnv "HOME").getD "."
  let place := "/".intercalate (directory.map fun part => if part = "~" then home else part)
  let log := place ++ "/lockdesk.log"
  IO.FS.createDirAll place
  IO.FS.withFile log .append fun _ => pure ()
  for record in records do
    match { record with created }.line with
    | .ok text =>
      if Audit.fills (← IO.FS.readBinFile log).size text then putAside log
      IO.FS.withFile log .append fun file => file.putStrLn text
    | .error _ => pure ()

end Lockable.CommandLine

open Lockable CommandLine in
/-- Runs a command line. -/
def main (arguments : List String) : IO UInt32 := do
  let environment ← readEnvironment
  let files ← readFiles (configPath environment arguments)
  let ending := Command.run { environment, files, transport := unreachable } () arguments
  for printed in ending.session.printed do
    for line in lines printed do
      IO.println line
  for (directory, records) in ending.session.trail.files do
    append directory records
  match ending.broken with
  | some cause => IO.eprintln cause.message
  | none => pure ()
  return ending.status.toUInt32
