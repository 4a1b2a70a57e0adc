import Lockable.Note.Form
import Lockable.Resource
import Lockable.Selection
import Lockable.Text.Lines
import Lockable.Text.Marks

/-!
# Rows

The rows of the desk: one for each listed resource, with a checkbox, a button for its note and the
area where the note is shown or written. The table is the **source** of the selection: what is
selected is what is checked, in row order.

Texts are drawn by a screen that reads their markup, so a row can be made only of texts that the
screen takes. The buttons and the status are the desk's own words and are always taken.
-/

namespace Lockable.Desk

/-- A note that is being written: the text, its lines ended alike, and how many characters stand
before the caret. -/
structure Draft where
  text : String
  caret : Nat := 0
  deriving DecidableEq, Repr

namespace Draft

/-- A draft with a text, the caret before it. -/
def ofText (text : String) : Draft := { text := Text.evenLines text }

/-- Writes a character at the caret. -/
def insert (c : Char) (d : Draft) : Draft :=
  let cs := d.text.toList
  { text := String.ofList (cs.take d.caret ++ c :: cs.drop d.caret), caret := d.caret + 1 }

end Draft

/-- The area of a row for its note. -/
inductive NoteArea where
  /-- The note, or what is shown while its form is awaited. -/
  | reading (text : String)
  | writing (draft : Draft)
  /-- A form without a field for text has nothing to show. -/
  | blank
  deriving DecidableEq, Repr

namespace NoteArea

/-- What is shown while a form is awaited. -/
def awaited : NoteArea := .reading "loading..."

/-- What is shown of a form. -/
def ofForm (form : Note.Form) : NoteArea :=
  match form.first? with
  | some field => .writing (.ofText field.value)
  | none => .blank

/-- The text that is shown. -/
def text? : NoteArea → Option String
  | reading text => some text
  | _ => none

/-- The draft that is being written. -/
def draft? : NoteArea → Option Draft
  | writing draft => some draft
  | _ => none

end NoteArea

/-- A row: the resource as it was listed, whether it is checked, whether its button for the note is
shown, and its note. -/
structure Row where
  resource : Resource
  checked : Bool := false
  noteButton : Bool
  note : NoteArea

namespace Row

/-- The name in a row. -/
def name (row : Row) : String := row.resource.name

/-- Who reserved the resource, as it is shown. -/
def owner (r : Resource) : Json := r.reservedBy.orElse (.text "")

/-- The values of a resource that its row shows as they are listed, in the order in which they are
drawn. -/
def shown (r : Resource) : List Json := [.text r.name, owner r, r.description, r.note]

/-- What keeps a value from being shown: it must be a text, and one that the screen takes. -/
def refusal? (screen : Marks) : Json → Option Failure
  | .text s => screen.failure? s
  | other => some (.notDisplayable other.kind)

/-- Draws a value. -/
def drawValue (screen : Marks) (v : Json) : Except Failure Unit :=
  match refusal? screen v with
  | none => .ok ()
  | some e => .error e

/-- A row of a resource before anything happened to it. -/
def fresh (checked noteButton : Bool) (resource : Resource) : Row where
  resource := resource
  checked := checked
  noteButton := noteButton
  note := .reading resource.note.display

/-- Makes a row that can be drawn. -/
def make (screen : Marks) (checked noteButton : Bool) (resource : Resource) :
    Except Failure Row := do
  (shown resource).forM (drawValue screen)
  return fresh checked noteButton resource

/-- The row of a resource can be drawn. -/
def Displayable (screen : Marks) (r : Resource) : Prop := ∀ v ∈ shown r, refusal? screen v = none

section Making

variable {screen : Marks} {v : Json} {r : Resource} {row : Row} {e : Failure}
  {checked noteButton : Bool}

theorem refusal?_eq_none_iff :
    refusal? screen v = none ↔ ∃ s, v = .text s ∧ screen.Accepts s := by
  cases v <;> simp [refusal?, Marks.failure?_eq_none_iff]

theorem drawValue_eq_ok_iff : drawValue screen v = .ok () ↔ refusal? screen v = none := by
  rw [drawValue]
  split <;> simp [*]

theorem drawValue_eq_error_iff : drawValue screen v = .error e ↔ refusal? screen v = some e := by
  rw [drawValue]
  split <;> simp [*]

theorem make_eq_ok_iff : make screen checked noteButton r = .ok row ↔
    Displayable screen r ∧ fresh checked noteButton r = row := by
  have hdraw : (shown r).forM (drawValue screen) = .ok () ↔ Displayable screen r := by
    simp only [forM_eq_ok_iff, drawValue_eq_ok_iff, Displayable]
  rw [make, ← hdraw]
  cases (shown r).forM (drawValue screen) with
  | error e => exact iff_of_false nofun fun h => nomatch h.1
  | ok _ => exact ⟨fun h => ⟨rfl, Except.ok.inj h⟩, fun h => congrArg Except.ok h.2⟩

/-- A row that cannot be made has something to show that keeps it from being drawn. -/
theorem exists_of_make_eq_error (h : make screen checked noteButton r = .error e) :
    ∃ v ∈ shown r, refusal? screen v = some e := by
  rw [make] at h
  cases hdraw : (shown r).forM (drawValue screen) with
  | ok _ =>
    rw [hdraw] at h
    cases h
  | error e' =>
    rw [hdraw] at h
    cases h
    obtain ⟨v, hv, hfail⟩ := exists_of_forM_eq_error hdraw
    exact ⟨v, hv, drawValue_eq_error_iff.mp hfail⟩

end Making

/-- The texts in the columns of a row. -/
def labels (row : Row) : List String :=
  [row.name, row.resource.status.word, (owner row.resource).display,
    row.resource.description.display]

end Row

/-- The rows of a table. -/
abbrev Table : Type := List Row

namespace Table

/-- The names of the checked rows. -/
def checkedNames (rows : Table) : List String := (rows.filter (·.checked)).map Row.name

/-- The table as a source of the selection. -/
def source (rows : Table) : Option Source := some { checked := rows.checkedNames }

/-- The position of the first row of a name. -/
def position? (name : String) (rows : Table) : Option Nat :=
  rows.findIdx? fun row => row.name = name

/-- The rows of a new listing. A row stays checked if a row of its name was. -/
def redraw (screen : Marks) (rows : Table) (noteButton : Bool) (listing : List Resource) :
    Except Failure Table :=
  listing.mapM fun r => Row.make screen (rows.checkedNames.contains r.name) noteButton r

/-- The rows with all checkboxes alike. -/
def setAll (checked : Bool) (rows : Table) : Table := rows.map fun row => { row with checked }

/-- The resources of the rows whose checkboxes differ. -/
def differing (checked : Bool) (rows : Table) : List Resource :=
  (rows.filter (·.checked != checked)).map Row.resource

/-- Changes the note of one row. -/
def setNote (row : Nat) (note : NoteArea) (rows : Table) : Table :=
  rows.modify row fun r => { r with note }

end Table

end Lockable.Desk
