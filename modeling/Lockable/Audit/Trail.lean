import Lockable.Audit.Rotation
import Lockable.Files
import Lockable.Text.LetterCase

/-!
# The audit trail

Where records go. Configuring the trail opens the log of a directory and, if asked to, the console
beside it, in place of what was open before; from then on every record that is grave enough is
written to both.

For every log the trail lists all that was written to it. Which files hold this, and how much of it
is still there, follows from the list and from the files that were there before (`Trail.log?`). That
a directory can be made, and a file in it be opened and written to, is taken for granted.

A configuration with a level that there is none of **fails late**: the file is created by then, and
what was open before stays open.
-/

namespace Lockable.Audit

/-- How the console shows records: as the lines of the file, or in colours. -/
inductive Console where
  | lines
  | coloured
  deriving DecidableEq, Repr

/-- The places where records are written. -/
inductive Handler where
  | file
  | console (c : Console)
  deriving DecidableEq, Repr

/-- The trail: the level from which on records are kept, the open log and console, the records that
were written to the log of every directory, and what the console has shown as lines. -/
structure Trail where
  level : Level := Level.warning
  quiet : Bool := false
  openFile : Option (List String) := none
  console : Option Console := none
  files : List (List String × List Record) := []
  shown : List Record := []
  deriving Inhabited

namespace Trail

/-- The directory of the file when none is given: below the user's home. -/
def homeDirectory : List String := ["~", ".lockdesk", "logs"]

/-- The loggers that tell of every request; they are kept quiet below a warning. -/
def chatty : List String := ["httpx", "httpcore"]

/-- The handlers that are open. -/
def handlers (t : Trail) : List Handler :=
  (t.openFile.map fun _ => Handler.file).toList ++ (t.console.map Handler.console).toList

/-- The directory for a file: the given one, or the one that the environment names, or the one below
the home. -/
def directory (environment : List (String × String)) (given : Option String) : List String :=
  match given with
  | some d => Path.resolve d
  | none =>
    match Keyed.find? "LOCKDESK_LOG_DIR" environment with
    | some d => Path.resolve d
    | none => homeDirectory

/-- The console for an environment. -/
def consoleFor (environment : List (String × String)) : Console :=
  if Keyed.find? "LOCKDESK_RICH" environment = some "0" then .lines else .coloured

/-- Creates the file of a directory unless there is one. -/
def createFile (directory : List String) (t : Trail) : Trail :=
  if (Keyed.find? directory t.files).isSome then t
  else { t with files := t.files ++ [(directory, [])] }

/-- Configures the trail: afterwards and the outcome. -/
def configure (environment : List (String × String)) (level : Json) (given : Option String)
    (console : Bool) (t : Trail) : Trail × Except Failure Unit :=
  let place := directory environment given
  match level with
  | .text word =>
    let t := t.createFile place
    let t := { t with quiet := true }
    match Level.named? (Text.upper word) with
    | none => (t, .error (.wrongValue "Unable to configure root logger"))
    | some level =>
      ({ t with
          level
          openFile := some place
          console := if console then some (consoleFor environment) else none }, .ok ())
  | other => (t, .error (.noAttribute other.kind "upper"))

/-- The level from which on a logger is heard. -/
def threshold (logger : String) (t : Trail) : Level :=
  let isChatty := chatty.any fun c => logger = c || (c ++ ".").toList.isPrefixOf logger.toList
  if t.quiet && isChatty then Level.warning else t.level

/-- Writes a record to what is open, whatever its level. A record that has no line is written
nowhere. -/
def write (r : Record) (t : Trail) : Trail :=
  match r.line with
  | .error _ => t
  | .ok _ =>
    let files := match t.openFile with
      | some place => t.files.map fun f => if f.1 = place then (f.1, f.2 ++ [r]) else f
      | none => t.files
    let shown := if t.console = some .lines then t.shown ++ [r] else t.shown
    { t with files, shown }

/-- Writes a record if it is grave enough. -/
def log (logger : String) (r : Record) (t : Trail) : Trail :=
  if t.threshold logger ≤ r.level then t.write r else t

/-- Logs records one after another. -/
def logAll (records : List Record) (t : Trail) : Trail :=
  records.foldl (fun t r => t.log r.logger.display r) t

/-- The files of the log of a directory, if there is one, where these files were there before. -/
def log? (before : Log) (directory : List String) (t : Trail) : Option Log :=
  (Keyed.find? directory t.files).map before.writeAll

/-- The records in the open file of the log of a directory, if there is one, where no file was there
before. -/
def file? (directory : String) (t : Trail) : Option (List Record) :=
  (t.log? {} (Path.resolve directory)).map fun x => x.current.records

/-! ### Runs of a trail -/

/-- The attributes that a record has of itself and that no call can set. -/
def ownAttributes : List String :=
  ["message", "asctime", "name", "msg", "args", "levelname", "levelno", "pathname", "filename",
   "module", "exc_info", "exc_text", "stack_info", "lineno", "funcName", "created", "msecs",
   "relativeCreated", "thread", "threadName", "processName", "process"]

/-- One thing done to a trail. -/
inductive Step where
  | configure (level : Json) (directory : Option String) (console : Bool)
  | log (logger : String) (level : Level) (template : Json) (arguments : List Json)
      (attributes : List (String × Json))

/-- What a step answers: how the trail is configured, or nothing. -/
inductive Answer where
  | configured (level quiet : Level) (handlers : List Handler)
  | done

/-- One step: the trail afterwards and the outcome. A record that is not heard is not even made, so
only one that is heard can have a bad attribute. -/
def step (environment : List (String × String)) (t : Trail) :
    Step → Trail × Except Failure Answer
  | .configure level directory console =>
    let (t, outcome) := t.configure environment level directory console
    (t, outcome.map fun _ => .configured t.level (t.threshold "httpx") t.handlers)
  | .log logger level template arguments attributes =>
    if t.threshold logger ≤ level then
      match attributes.find? fun a => ownAttributes.contains a.1 with
      | some a =>
        (t, .error (.missingMember s!"Attempt to overwrite {Text.quoted a.1} in LogRecord"))
      | none =>
        (t.write { level, logger := .text logger, template, arguments := .ofValues arguments,
                   attributes }, .ok .done)
    else (t, .ok .done)

/-- The trails and outcomes of a run, one for each step. -/
def run (environment : List (String × String)) :
    Trail → List Step → List (Trail × Except Failure Answer)
  | _, [] => []
  | t, s :: rest =>
    let after := t.step environment s
    after :: run environment after.1 rest

end Trail

end Lockable.Audit
