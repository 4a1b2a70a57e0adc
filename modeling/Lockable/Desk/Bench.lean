import Lockable.Desk

/-!
# Runs of the desk

A desk before a scripted server, and one step after another. Rows are given by name, which means the
first row of that name; a step for a row that is not there does nothing. Toasts and requests are
those since the step before.
-/

namespace Lockable.Desk

/-- A desk under test, with the files around it. -/
structure Bench where
  desk : Desk Http.Script
  files : Files := {}

/-- What a step does. -/
inductive Step where
  | check (name : String) (checked : Bool)
  | press (button : BarButton)
  | note (name : String)
  | write (name text : String)
  | save (name : String)
  | key (k : Hotkey)
  /-- Write the configuration anew. -/
  | configure (text : String)
  /-- Replace these lines of the server's script. -/
  | script (lines : Http.Script)
  /-- Look for a row. -/
  | find (name : String)

namespace Bench

/-- The path of the configuration. -/
def configPath : String := "lockdesk.yml"

/-- A bench with a desk for settings that are given as a document, or for those of a configuration
file that it then also knows. -/
def start (configuration : Option String) (given : Document) (grants : Option Json)
    (server : Http.Script) : Except Failure Bench := do
  match configuration with
  | none =>
    let settings ← Settings.ofDocument given
    return { desk := ← Desk.start Http.Script.transport { settings, grants } server }
  | some text =>
    let files := Files.ofTexts [(configPath, text)]
    let store : SettingsStore Unit := .forPath (some configPath) []
    let (store, outcome) := store.load files
    let settings ← outcome
    let launch : Launch := { settings, grants, store := some store }
    return { desk := ← Desk.start Http.Script.transport launch server, files }

/-- Something that the user does to the first row of a name. -/
def actOn (b : Bench) (name : String) (act : Nat → Act) : Except Failure Bench := do
  match b.desk.rows.position? name with
  | some row =>
    return { b with desk := ← b.desk.step Http.Script.transport b.files (act row) }
  | none => return b

/-- Something that the user does. -/
def act (b : Bench) (a : Act) : Except Failure Bench := do
  return { b with desk := ← b.desk.step Http.Script.transport b.files a }

/-- Replaces lines of the server's script. -/
def rescript (b : Bench) (lines : Http.Script) : Bench :=
  let client := b.desk.client
  let server := lines.foldl (fun server l => Keyed.insert l.1 l.2 server) client.wire.server
  { b with desk := { b.desk with client := { client with wire := { client.wire with server } } } }

/-- Forgets the toasts and requests so far. -/
def settle (b : Bench) : Bench :=
  let client := b.desk.client
  { b with desk := { b.desk with
      toasts := [], client := { client with wire := { client.wire with sent := [] } } } }

/-- One step: the bench afterwards, and what was found if something was looked for. -/
def step (b : Bench) : Step → Except Failure (Bench × Option Bool)
  | .check name checked => do return (← b.actOn name (.check · checked), none)
  | .press button => do return (← b.act (.press button), none)
  | .note name => do return (← b.actOn name .note, none)
  | .write name text => do return (← b.actOn name (.write · text), none)
  | .save name => do return (← b.actOn name .save, none)
  | .key k => do return (← b.act (.key k), none)
  | .configure text =>
    .ok ({ b with files := b.files.write configPath (Utf8.encode text.toList) }, none)
  | .script lines => .ok (b.rescript lines, none)
  | .find name => .ok (b, some (b.desk.rows.position? name).isSome)

/-- The bench after each step, up to a failure that ends the desk. -/
def run : Bench → List Step → Except Failure (List (Bench × Option Bool))
  | _, [] => .ok []
  | b, s :: rest => do
    let (b, found) ← b.settle.step s
    return (b, found) :: (← run b rest)

end Bench

end Lockable.Desk
