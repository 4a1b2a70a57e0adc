import Lockable.Audit.Trail
import Lockable.Client
import Lockable.Command.Invocation
import Lockable.Desk

/-!
# Runs of the commands

What a command line does: the configuration is loaded, the audit trail is opened, and then the
command talks to the server and prints what comes of it.

An action is submitted only if the action bar, with the named resources checked, **enables** it;
`--force` leaves that to the server. Failures that are the user's to know are printed and end the
run with status 1; any other failure breaks the run off, with status 1 as well. Arguments that make
no sense end it with status 2.

What is printed is marked up, the words of a failure included. A console that refuses the markup
prints nothing, and that breaks the run off too.
-/

namespace Lockable.Command

/-- Something that is printed, before it is laid out. -/
inductive Printed where
  | line (text : String)
  | table (title : String) (columns : List String) (rows : List (List String))
  | json (value : Json)
  /-- The desk is launched in place of the command, while the audit trail has these handlers. -/
  | desk (launch : Desk.Launch) (handlers : List Audit.Handler)

/-- The texts of a printed thing that are marked up, in the order in which they are read: a table is
laid out one column after another before its title is written over it. A document has no markup, and
the desk has a screen of its own. -/
def Printed.texts : Printed → List String
  | .line text => [text]
  | .table title columns rows =>
    (columns.zipIdx.flatMap fun column => column.1 :: rows.filterMap (·[column.2]?)) ++ [title]
  | .json _ => []
  | .desk .. => []

/-- The console takes all texts of a printed thing. -/
def Printed.Fits (console : Marks) (p : Printed) : Prop := ∀ text ∈ p.texts, console.Accepts text

instance (console : Marks) (p : Printed) : Decidable (p.Fits console) :=
  inferInstanceAs (Decidable (∀ text ∈ p.texts, console.Accepts text))

/-- The state of a run: the server, what was sent to it and which actions were submitted, the audit
trail, and what was printed. -/
structure Session (σ : Type) where
  server : σ
  sent : List Http.Request := []
  submitted : List ActionRequest := []
  trail : Audit.Trail := {}
  printed : List Printed := []

/-- What a run rests on: the environment, the files, the way to the server, what reads the markup of
what is printed and of what a desk shows, and what reads the text of an answer. -/
structure Surroundings (σ : Type) where
  environment : List (String × String)
  files : Files
  transport : Http.Transport σ
  console : Marks := .lenient
  screen : Marks := .lenient
  reading : Http.Reading := .standard

/-- What the configuration and the options for all commands come to. -/
structure Context where
  store : SettingsStore Unit
  settings : Settings
  permissions : List (String × Bool)

/-- Why a run ends early. -/
inductive Stop where
  | help
  | nonsense
  | failed (cause : Failure)

/-- A part of a run. -/
abbrev Part (σ α : Type) : Type := ExceptT Stop (StateM (Session σ)) α

variable {σ : Type}

/-- Fails. -/
def fail {α : Type} (cause : Failure) : Part σ α := throw (Stop.failed cause)

/-- The value of an outcome. -/
def get {α : Type} : Except Failure α → Part σ α
  | .ok value => return value
  | .error cause => fail cause

/-- The value of an outcome whose failure is the user's to know. -/
def getReported {α : Type} : Except Failure α → Part σ α
  | .ok value => return value
  | .error cause => fail (.refused cause.message)

/-- What is understood. -/
def understand {α : Type} : Understood α → Part σ α
  | .as value => return value
  | .help => throw .help
  | .nonsense => throw .nonsense

/-- Prints, if the console takes every text. -/
def put (console : Marks) (p : Printed) : Part σ Unit := do
  get (console.readAll p.texts)
  modify fun s => { s with printed := s.printed ++ [p] }

/-- Leaves a record. -/
def log (r : Audit.Record) : Part σ Unit :=
  modify fun s => { s with trail := s.trail.log r.logger.display r }

/-- Lets a new client do something. -/
def withClient {α : Type} (reading : Http.Reading) (settings : ServerSettings)
    (action : Client.Call σ α) : Part σ α := do
  let s ← getThe (Session σ)
  let client ← get (Client.start settings s.server reading)
  let (outcome, after) := client.call action
  set { s with
    server := after.wire.server
    sent := s.sent ++ after.wire.sent
    submitted := s.submitted ++ after.submitted
    trail := s.trail.logAll after.records }
  get outcome

/-! ### Before the command -/

/-- The grants of the command line, which replace those of the configuration. -/
def readGrants (given : List String) : Except Failure (List (String × Bool)) := do
  let capabilities ← given.mapM fun word => Capability.read (.text word)
  return Keyed.ofEntries (capabilities.map fun c => (c.name, true))

/-- Opens the audit trail. The desk has the screen for itself, so nothing is logged there. -/
def openTrail (around : Surroundings σ) (level : String) (settings : Settings)
    (name : CommandName) : Part σ Unit := do
  let s ← getThe (Session σ)
  let (trail, outcome) :=
    s.trail.configure around.environment (.text level) settings.logging.logDir (name != .desk)
  set { s with trail }
  get outcome

/-- Loads the configuration and opens the audit trail. -/
def prepare (around : Surroundings σ) (general : General) (name : CommandName) :
    Part σ Context := do
  let store : SettingsStore Unit := .forPath general.config around.environment
  let (store, outcome) := store.load around.files
  let settings ← get outcome
  let level := match general.logLevel.filter (· ≠ "") with
    | some level => level
    | none => settings.logging.level
  openTrail around level settings name
  if general.grants.isEmpty then return ⟨store, settings, settings.session.permissions⟩
  else return ⟨store, settings, ← getReported (readGrants general.grants)⟩

/-! ### The commands -/

/-- What is recorded when permissions are loaded into an action bar. -/
def loadRecords (p : Permissions) : List Audit.Record :=
  let table := Json.object (Capability.all.map fun c => (c.name, .bool (p.allows c)))
  [.plain "lockdesk.security.permissions" Audit.Level.debug
      ("permissions loaded: " ++ table.display) [],
    .plain "lockdesk.ui_tui.action_bar" Audit.Level.info "action bar initialised"
      [("capability", .list (p.held.map fun c => .text c.name))]]

/-- The permissions that follow from grants, loaded into an action bar. -/
def loadBar (permissions : List (String × Bool)) : Part σ ActionBar := do
  let ((bar, _), outcome) :=
    ActionBar.load (Settings.permissionMapping permissions) (some {}) {}
  get outcome
  (loadRecords bar.permissions).forM log
  return bar

/-- Checks one resource after another on an action bar. -/
def checkAll : List Resource → Source → ActionBar → Except Failure ActionBar
  | [], _, bar => .ok bar
  | r :: rest, source, bar =>
    let source := { source with checked := source.checked ++ [r.name] }
    match bar.selectionChanged r true (some source) with
    | (bar, .ok ()) => checkAll rest source bar
    | (_, .error e) => .error e

/-- The action bar with these resources checked. -/
def evaluate (context : Context) (resources : List Resource) : Part σ ActionBar := do
  let bar ← loadBar context.permissions
  get (checkAll resources {} bar)

/-- The listing of the server. -/
def fetchAll (around : Surroundings σ) (context : Context) : Part σ (List Resource) :=
  withClient around.reading context.settings.server
    (Client.listResources around.transport (Settings.textOrNull context.settings.session.user))

/-- The resource that a listing has under a name; the last one, if there are several. -/
def find? (listing : List Resource) (name : String) : Option Resource :=
  listing.reverse.find? fun r => r.name = name

/-- The resources of these names in a listing, which must have them all. -/
def pick (listing : List Resource) (names : List String) : Except Failure (List Resource) :=
  let missing := names.filter fun name => (find? listing name).isNone
  if missing.isEmpty then .ok (names.filterMap (find? listing))
  else .error (.refused ("Unknown resource(s): " ++ ", ".intercalate missing))

/-- The resources of these names on the server. -/
def fetch (around : Surroundings σ) (context : Context) (names : List String) :
    Part σ (List Resource) := do
  get (pick (← fetchAll around context) names)

/-- A value in a table; only a text can be drawn. -/
def cell : Json → Except Failure String
  | .text s => .ok s
  | .null => .ok ""
  | other => .error (.notDrawable other.kind)

/-- The cell for some actions. -/
def actionsCell (actions : List RowAction) : String :=
  let shown := ", ".intercalate (actions.map RowAction.endpoint)
  if shown = "" then "-" else shown

/-- The row of a resource in the table of all. -/
def resourceRow (p : Permissions) (r : Resource) : Except Failure (List String) := do
  let owner ← cell (r.reservedBy.orElse (.text ""))
  let note ← cell r.note
  return [r.name, r.status.word, owner, actionsCell (r.allowedActions p), note]

/-- The table of all resources. -/
def resourceTable (rows : List (List String)) : Printed :=
  .table "Lockable resources" ["Resource", "Status", "Reserved by", "Allowed actions", "Note"] rows

/-- Lists the resources and the actions allowed on each. -/
def runResources (around : Surroundings σ) (context : Context) : Part σ Unit := do
  let resources ← fetchAll around context
  let bar ← loadBar context.permissions
  let rows ← get (resources.mapM (resourceRow bar.permissions))
  put around.console (resourceTable rows)

/-- How a state of a button is marked up. -/
def stateStyle : ButtonState → String
  | .enabled => "green"
  | .disabled => "yellow"
  | .hidden => "dim"

/-- The row of a button in the table of the action bar. -/
def buttonRow (bar : ActionBar) (b : BarButton) : List String :=
  let state := bar.states.get b
  [b.capability.buttonId, s!"[{stateStyle state}]{state.word}[/]"]

/-- The table of the action bar for resources of these names. -/
def barTable (names : List String) (bar : ActionBar) : Printed :=
  let shown := ", ".intercalate names
  .table s!"Action bar for {shown}" ["Button", "State"] (BarButton.all.map (buttonRow bar))

/-- Shows the action bar for some resources. -/
def runAllowed (around : Surroundings σ) (context : Context) (names : List String) :
    Part σ Unit := do
  let resources ← fetch around context names
  put around.console (barTable names (← evaluate context resources))

/-- The action that a word means, which must be a row action. -/
def readAction (word : String) : Except Failure RowAction :=
  match Capability.read (.text word) with
  | .error cause => .error cause
  | .ok c => match c.rowAction? with
    | some action => .ok action
    | none => .error (.notRowAction word)

/-- Fails unless the action bar enables the action for the resources of these names. -/
def checkAllowed (around : Surroundings σ) (context : Context) (action : RowAction)
    (names : List String) : Part σ Unit := do
  let bar ← evaluate context (← fetch around context names)
  if bar.states.get (.action action) ≠ .enabled then
    let shown := ", ".intercalate names
    fail (.refused s!"{action.endpoint} is not allowed for {shown} (use --force to send anyway)")

/-- Submits an action for the resources of these names. -/
def sendAction (around : Surroundings σ) (context : Context) (action : RowAction)
    (names : List String) : Part σ Unit := do
  let _ ← withClient around.reading context.settings.server
    (Client.dispatch around.transport action.capability (some { checked := names }))
  let shown := ", ".intercalate names
  put around.console (.line s!"[green]{action.endpoint}[/] sent for {shown}")

/-- Submits an action, unless the action bar has to be asked and says no. -/
def runDispatch (around : Surroundings σ) (context : Context) (word : String)
    (names : List String) (force : Bool) : Part σ Unit := do
  let action ← getReported (readAction word)
  if !force then checkAllowed around context action names
  sendAction around context action names

/-- Replaces the note of a resource. -/
def runNote (around : Surroundings σ) (context : Context) (name text : String) :
    Part σ Unit := do
  withClient around.reading context.settings.server (Client.saveNote around.transport name text)
  put around.console (.line s!"Note of [bold]{name}[/] saved")

/-- Shows the configuration with the permissions that are in effect, and without the token. -/
def runShowConfig (around : Surroundings σ) (context : Context) : Part σ Unit :=
  let session := { context.settings.session with permissions := context.permissions }
  put around.console (.json ({ context.settings with session }.toJson false))

/-- What the desk is launched with: the permissions that are in effect are its grants. -/
def launch (around : Surroundings σ) (context : Context) : Desk.Launch where
  settings := context.settings
  grants := some (Settings.permissionMapping context.permissions)
  store := some context.store
  screen := around.screen
  reading := around.reading

/-- Launches the desk. -/
def runDesk (around : Surroundings σ) (context : Context) : Part σ Unit := do
  let s ← getThe (Session σ)
  let _ ← get (Client.start context.settings.server s.server around.reading)
  put around.console (.desk (launch around context) s.trail.handlers)

/-- Does what is to be done. -/
def runTask (around : Surroundings σ) (context : Context) : Task → Part σ Unit
  | .desk => runDesk around context
  | .resources => runResources around context
  | .allowed names => runAllowed around context names
  | .dispatch action names force => runDispatch around context action names force
  | .note name text => runNote around context name text
  | .showConfig => runShowConfig around context

/-! ### Whole runs -/

/-- All parts of a run. -/
def runAll (around : Surroundings σ) (arguments : List String) : Part σ Unit := do
  let (general, name, rest) ← understand (readGeneral arguments)
  let context ← prepare around general name
  let task ← understand (readTask name rest)
  runTask around context task

/-- How a run ends: its status, the failure that broke it off if one did, and the session. -/
structure Ending (σ : Type) where
  status : Nat
  broken : Option Failure := none
  session : Session σ

/-- The line that tells of a failure. -/
def errorLine (cause : Failure) : String := s!"[bold red]error:[/] {cause.message}"

/-- The end of a run that stops early. -/
def Stop.ending (console : Marks) (s : Session σ) : Stop → Ending σ
  | .help => { status := 0, session := s }
  | .nonsense => { status := 2, session := s }
  | .failed cause =>
    if cause.isReported then
      match console.failure? (errorLine cause) with
      | none =>
        let line := Printed.line (errorLine cause)
        { status := 1, session := { s with printed := s.printed ++ [line] } }
      | some e => { status := 1, broken := some e, session := s }
    else { status := 1, broken := some cause, session := s }

/-- Runs a command line. -/
def run (around : Surroundings σ) (server : σ) (arguments : List String) : Ending σ :=
  match (runAll around arguments).run.run { server } with
  | (.ok (), s) => { status := 0, session := s }
  | (.error stop, s) => stop.ending around.console s

end Lockable.Command
