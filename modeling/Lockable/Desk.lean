import Lockable.ActionBar
import Lockable.Client
import Lockable.Desk.Hotkey
import Lockable.Desk.Row
import Lockable.Note.Editor
import Lockable.Settings.Store

/-!
# The desk

The screen on which resources are selected and acted upon: the table, the action bar above it, and
the notes. The desk is seen **at rest**: a step is one thing that the user does together with all
that follows from it.

Four things have to agree, and every step keeps them together: the rows, their checkboxes, the
snapshots of the action bar and the states of its buttons.

* `Desk.refresh` fetches the listing and redraws the table; a listing that cannot be had changes
  nothing.
* `Desk.press` submits an action only while its button can be clicked.
* `Desk.reload` takes over a changed configuration. Grants that the desk was launched with take
  precedence over those of any configuration.

A failure that is the user's to know is shown as a **toast**. Any other failure ends the desk, and
is then the outcome of the step. So does a text that the screen refuses to draw for its markup, be
it in a row or in a toast; the toasts of a step are drawn when all else is done (`Desk.drawToasts`).

Of the keyboard the desk knows only the draft that has it, if one has (`Desk.focus`). In a draft
letters are typed at the caret, or the whole of its text is replaced; other ways to move the caret
and to edit are left out.
-/

namespace Lockable

namespace Desk

/-- What a desk is launched with: the settings, grants in place of those of the settings, the store
that the settings came from, and the screen. -/
structure Launch where
  settings : Settings
  grants : Option Json := none
  store : Option (SettingsStore Unit) := none
  screen : Marks := .lenient
  reading : Http.Reading := .standard

/-- How the desk is coloured. -/
inductive Theme where
  | light
  | dark
  deriving DecidableEq, Repr

/-- The theme of some settings; whatever is not light is dark. -/
def Theme.ofSettings (s : DeskSettings) : Theme := if s.theme = "light" then .light else .dark

/-- The name of a theme. -/
def Theme.name : Theme → String
  | light => "textual-light"
  | dark => "textual-dark"

/-- How grave the message of a toast is. -/
inductive Severity where
  | information
  | error
  deriving DecidableEq, Repr

/-- The word for a severity. -/
def Severity.word : Severity → String
  | information => "information"
  | error => "error"

/-- A message that is shown for a while. -/
structure Toast where
  severity : Severity
  title : String := ""
  message : String
  deriving DecidableEq, Repr

end Desk

/-- A desk: what it was launched with, its client, the action bar and the table, the row whose note
has the keyboard, the toasts that were shown, and whether it is still there. -/
structure Desk (σ : Type) where
  settings : Settings
  grants : Option Json
  store : Option (SettingsStore Unit)
  screen : Marks
  theme : Desk.Theme
  client : Client σ
  bar : ActionBar := {}
  rows : Desk.Table := []
  focus : Option Nat := none
  toasts : List Desk.Toast := []
  closed : Bool := false

namespace Desk

variable {σ : Type}

/-- The table as a source of the selection. -/
def source (d : Desk σ) : Option Source := d.rows.source

/-- The permission mapping in effect. -/
def grantMapping (d : Desk σ) : Json :=
  d.grants.getD (Settings.permissionMapping d.settings.session.permissions)

/-! ### Toasts -/

/-- Tells the user something. -/
def inform (message : String) (d : Desk σ) : Desk σ :=
  { d with toasts := d.toasts ++ [{ severity := .information, message }] }

/-- Draws the toasts after the first ones, whose titles have no markup. -/
def drawToasts (drawn : Nat) (d : Desk σ) : Except Failure (Desk σ) := do
  d.screen.readAll ((d.toasts.drop drawn).map Toast.message)
  return d

/-- Tells the user of a failure that is theirs to know; any other ends the desk. -/
def report (title : String) (e : Failure) (d : Desk σ) : Except Failure (Desk σ) :=
  if e.isReported then
    .ok { d with toasts := d.toasts ++ [{ severity := .error, title, message := e.message }] }
  else .error e

/-! ### The action bar -/

/-- Takes over the bar that an operation leaves. -/
def adopt (d : Desk σ) (after : ActionBar × Except Failure Unit) : Except Failure (Desk σ) :=
  after.2.map fun _ => { d with bar := after.1 }

/-- Loads the grants in effect: the selection is cleared, and every row's button for its note is
shown if notes may be edited. -/
def loadGrants (d : Desk σ) : Except Failure (Desk σ) :=
  match d.bar.load d.grantMapping d.source with
  | (_, .error e) => .error e
  | ((bar, _), .ok ()) =>
    let rows := d.rows.map fun r => { r with checked := false, noteButton := bar.noteVisible }
    .ok { d with bar, rows }

/-- Tells the bar of rows that were checked or unchecked, one after another. -/
def announce (checked : Bool) : List Resource → Desk σ → Except Failure (Desk σ)
  | [], d => .ok d
  | r :: rest, d =>
    match d.adopt (d.bar.selectionChanged r checked d.source) with
    | .ok d => announce checked rest d
    | .error e => .error e

/-! ### The listing -/

/-- Shows a listing: the table is redrawn, every listed resource recorded and the bar recomputed.
The notes that were being written are gone with their rows. -/
def draw (listing : List Resource) (d : Desk σ) : Except Failure (Desk σ) :=
  match d.rows.redraw d.screen d.bar.noteVisible listing with
  | .error e => .error e
  | .ok rows =>
    let bar := listing.foldl (fun bar r => bar.record r) d.bar
    let d := { d with rows, bar, focus := none }
    d.adopt (d.bar.refresh d.source)

/-- Fetches the listing and shows it. -/
def refresh (transport : Http.Transport σ) (d : Desk σ) : Except Failure (Desk σ) :=
  let user := Settings.textOrNull d.settings.session.user
  match d.client.call (Client.listResources transport user) with
  | (.ok listing, client) => { d with client }.draw listing
  | (.error e, client) => { d with client }.report "Refresh failed" e

/-- A desk for a launch, before the first listing. -/
def fresh (launch : Launch) (client : Client σ) : Desk σ where
  settings := launch.settings
  grants := launch.grants
  store := launch.store.map (·.register ())
  screen := launch.screen
  theme := .ofSettings launch.settings.desk
  client := client
  bar := ({} : ActionBar).bind (BarButton.all.map fun b => (b.capability, {}))

/-- A desk for a launch, at rest. The grants are loaded when the first listing is shown, or has
failed. -/
def start (transport : Http.Transport σ) (launch : Launch) (server : σ) :
    Except Failure (Desk σ) := do
  let client ← Client.start launch.settings.server server launch.reading
  let d ← (← (fresh launch client).refresh transport).loadGrants
  d.drawToasts 0

/-! ### The configuration -/

/-- Takes over settings that were loaded anew. -/
def takeOver (settings : Settings) (d : Desk σ) : Desk σ :=
  match { d with settings }.loadGrants with
  | .ok d => d.inform "Permissions reloaded"
  | .error _ => { d with settings }

/-- Reloads the configuration, if the desk knows where it is. -/
def reload (files : Files) (d : Desk σ) : Except Failure (Desk σ) :=
  match d.store with
  | none => .ok d
  | some store =>
    match store.reload files with
    | (store, .ok (settings, watchers)) =>
      .ok (watchers.foldl (fun d _ => d.takeOver settings) { d with store := some store })
    | (store, .error e) => { d with store := some store }.report "Configuration error" e

/-! ### Checkboxes -/

/-- Sets the checkbox of a row; nothing happens if it has that value already. -/
def check (row : Nat) (checked : Bool) (d : Desk σ) : Except Failure (Desk σ) :=
  match d.rows[row]? with
  | none => .ok d
  | some r =>
    if r.checked = checked then .ok d
    else
      let rows := d.rows.modify row fun r => { r with checked }
      announce checked [r.resource] { d with rows }

/-- Sets all checkboxes. -/
def checkAll (checked : Bool) (d : Desk σ) : Except Failure (Desk σ) :=
  announce checked (d.rows.differing checked) { d with rows := d.rows.setAll checked }

/-! ### Notes -/

/-- Shows something in the area of a row for its note. The keyboard goes to a draft that asks for
it, and leaves one that disappears. -/
def showNote (row : Nat) (what : Note.Display) (d : Desk σ) : Desk σ :=
  let put (note : NoteArea) : Desk σ :=
    { d with
      rows := d.rows.setNote row note
      focus := if d.focus = some row ∧ note.draft?.isNone then none else d.focus }
  match what with
  | .loading => put .awaited
  | .form form => put (.ofForm form)
  | .focus found => if found then { d with focus := some row } else d

/-- Shows what concerns the area of a row among all that has happened. -/
def showAll (row : Nat) (happenings : List Note.Happening) (d : Desk σ) : Desk σ :=
  happenings.foldl (fun d h => match h with
    | .shown _ what => d.showNote row what
    | _ => d) d

/-- Fetches the form for the note of a row and shows it. A form that cannot be had stays awaited. -/
def editNote (transport : Http.Transport σ) (row : Nat) (d : Desk σ) : Desk σ :=
  match d.rows[row]? with
  | none => d
  | some r =>
    let (outcome, client) := d.client.call (Client.fetchNoteForm transport r.name)
    let answer : Note.Answer := match outcome with
      | .ok markup => .markup markup
      | .error e => .failed e
    let task : Note.Task := { name := r.name, container := r.name }
    ({ d with client }.showNote row .loading).showAll row (Note.Editor.digest [] task answer).1

/-- Presses the button of a row for its note. -/
def pressNote (transport : Http.Transport σ) (row : Nat) (d : Desk σ) : Desk σ :=
  match d.rows[row]? with
  | some r => if r.noteButton then d.editNote transport row else d
  | none => d

/-- Moves the keyboard to the draft of a row, or away from all drafts. -/
def moveFocus (target : Option Nat) (d : Desk σ) : Desk σ :=
  match target with
  | none => { d with focus := none }
  | some row =>
    match d.rows[row]? with
    | some { note := .writing _, .. } => { d with focus := some row }
    | _ => d

/-- Replaces the draft of a row. -/
def write (row : Nat) (text : String) (d : Desk σ) : Desk σ :=
  match d.rows[row]? with
  | some { note := .writing _, .. } =>
    { d with rows := d.rows.setNote row (.writing (.ofText text)) }
  | _ => d

/-- Writes a letter into the draft of a row. -/
def writeLetter (row : Nat) (c : Char) (d : Desk σ) : Desk σ :=
  match d.rows[row]? with
  | some { note := .writing draft, .. } =>
    { d with rows := d.rows.setNote row (.writing (draft.insert c)) }
  | _ => d

/-- Saves the draft of a row. It stays where it is until the server has taken it, and is then shown
in the row. -/
def save (transport : Http.Transport σ) (row : Nat) (d : Desk σ) : Except Failure (Desk σ) :=
  match d.rows[row]? with
  | some { resource, note := .writing draft, .. } =>
    match d.client.call (Client.saveNote transport resource.name draft.text) with
    | (.ok (), client) => do
      d.screen.read draft.text
      return { d with
        client
        rows := d.rows.setNote row (.reading draft.text)
        focus := if d.focus = some row then none else d.focus }
    | (.error e, client) => { d with client }.report "Note not saved" e
  | _ => .ok d

/-! ### The buttons of the bar -/

/-- Whether a button of the bar can be clicked. -/
def clickable (b : BarButton) (d : Desk σ) : Bool :=
  match Keyed.find? b.capability d.bar.handles with
  | some h => h.display && !h.disabled
  | none => false

/-- Edits the note of the first selected row. -/
def editSelected (transport : Http.Transport σ) (d : Desk σ) : Except Failure (Desk σ) :=
  match Source.selection d.source with
  | .error e => .error e
  | .ok names => match names.head?.bind fun name => d.rows.position? name with
    | some row => .ok (d.editNote transport row)
    | none => .ok d

/-- Submits an action for the selection; the listing is fetched anew when the server has taken
it. -/
def dispatch (transport : Http.Transport σ) (a : RowAction) (d : Desk σ) :
    Except Failure (Desk σ) :=
  match d.client.call (Client.dispatch transport a.capability d.source) with
  | (.error e, client) => { d with client }.report (a.endpoint ++ " failed") e
  | (.ok none, client) => .ok { d with client }
  | (.ok (some r), client) =>
    let names := ", ".intercalate r.resources
    ({ d with client }.inform s!"{a.endpoint}: {names}").refresh transport

/-- Presses a button of the bar; nothing happens if it cannot be clicked. -/
def press (transport : Http.Transport σ) (b : BarButton) (d : Desk σ) : Except Failure (Desk σ) :=
  if d.clickable b then
    match b with
    | .action a => d.dispatch transport a
    | .editNote => d.editSelected transport
  else .ok d

/-! ### Steps -/

/-- Something that happens at the desk: all but the tick of the clock is done by the user. Rows are
given by their positions. -/
inductive Act where
  | check (row : Nat) (checked : Bool)
  | press (button : BarButton)
  | note (row : Nat)
  /-- The keyboard goes to the draft of a row, or away from all drafts. -/
  | focus (target : Option Nat)
  | write (row : Nat) (text : String)
  | save (row : Nat)
  | key (k : Hotkey)
  /-- It is time to fetch the listing anew. -/
  | tick

/-- Presses a key. A letter goes to the draft that has the keyboard, if there is one. -/
def strike (transport : Http.Transport σ) (files : Files) (k : Hotkey) (d : Desk σ) :
    Except Failure (Desk σ) :=
  match d.focus, k.letter? with
  | some row, some c => .ok (d.writeLetter row c)
  | _, _ => match k with
    | .refresh => d.refresh transport
    | .reload => d.reload files
    | .selectAll => d.checkAll true
    | .clearSelection => d.checkAll false
    | .quit => .ok { d with focus := none, closed := true }

/-- What an act does, before its toasts are drawn. -/
def perform (transport : Http.Transport σ) (files : Files) (d : Desk σ) :
    Act → Except Failure (Desk σ)
  | .check row checked => d.check row checked
  | .press button => d.press transport button
  | .note row => .ok (d.pressNote transport row)
  | .focus target => .ok (d.moveFocus target)
  | .write row text => .ok (d.write row text)
  | .save row => d.save transport row
  | .key k => d.strike transport files k
  | .tick => d.refresh transport

/-- One step, with the files as they are. Nothing happens on a desk that is closed. -/
def step (transport : Http.Transport σ) (files : Files) (d : Desk σ) (act : Act) :
    Except Failure (Desk σ) :=
  if d.closed then .ok d
  else do (← d.perform transport files act).drawToasts d.toasts.length

end Desk

end Lockable
