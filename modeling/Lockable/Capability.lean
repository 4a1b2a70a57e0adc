import Lockable.Json.Display
import Lockable.Text.Blank
import Lockable.Text.LetterCase

/-!
# Capabilities

What a user may be allowed to do. Six capabilities are **row actions**, which apply to the rows of
the resource table; editing a note has a button of its own; administering only widens the others.

* `Capability.ofName?` knows a capability by its exact name, `Capability.read?` by any spelling of
  it: any value, in any letter case, with blanks around it.
-/

namespace Lockable

/-- An action on the selected rows, each handled by one endpoint of the server. -/
inductive RowAction where
  | unlock
  | steal
  | reserve
  | unreserve
  | reassign
  | reset
  deriving DecidableEq, Repr, Inhabited

namespace RowAction

/-- The row actions in the order of the action bar. -/
def all : List RowAction := [.unlock, .steal, .reserve, .unreserve, .reassign, .reset]

/-- The endpoint that handles the action. -/
def endpoint : RowAction → String
  | .unlock => "unlock"
  | .steal => "steal"
  | .reserve => "reserve"
  | .unreserve => "unreserve"
  | .reassign => "reassign"
  | .reset => "reset"

/-- Every action is in the list of all. -/
@[simp] theorem mem_all (a : RowAction) : a ∈ all := by cases a <;> decide

end RowAction

/-- A capability of the current user. -/
inductive Capability where
  | unlock
  | reset
  | steal
  | reassign
  | reserve
  | unreserve
  | edit
  | administer
  deriving DecidableEq, Repr, Inhabited

namespace Capability

/-- The capabilities in their usual order. -/
def all : List Capability :=
  [.unlock, .reset, .steal, .reassign, .reserve, .unreserve, .edit, .administer]

/-- Every capability is in the list of all. -/
@[simp] theorem mem_all (c : Capability) : c ∈ all := by cases c <;> decide

/-- The name by which grants and configurations know the capability. -/
def name : Capability → String
  | .unlock => "UNLOCK"
  | .reset => "RESET"
  | .steal => "STEAL"
  | .reassign => "REASSIGN"
  | .reserve => "RESERVE"
  | .unreserve => "UNRESERVE"
  | .edit => "EDIT"
  | .administer => "ADMINISTER"

/-- The keyword of the capability in addresses and on the screen. -/
def keyword : Capability → String
  | .unlock => "unlock"
  | .reset => "reset"
  | .steal => "steal"
  | .reassign => "reassign"
  | .reserve => "reserve"
  | .unreserve => "unreserve"
  | .edit => "edit"
  | .administer => "administer"

/-- What the identifier of every action button begins with. -/
def buttonStem : String := "resource_action_"

/-- The identifier of the capability's button. -/
def buttonId (c : Capability) : String := buttonStem ++ c.keyword

/-- The row action that the capability is for, if it is for one. -/
def rowAction? : Capability → Option RowAction
  | .unlock => some .unlock
  | .reset => some .reset
  | .steal => some .steal
  | .reassign => some .reassign
  | .reserve => some .reserve
  | .unreserve => some .unreserve
  | .edit => none
  | .administer => none

/-- The capability with exactly this name. -/
def ofName? (s : String) : Option Capability := all.find? fun c => c.name == s

/-- How a spelling is compared with the names: without blanks at its ends and in upper case. -/
def canonicalName (value : Json) : String := Text.upper (Text.strip value.display)

/-- The capability that a value spells. -/
def read? (value : Json) : Option Capability := ofName? (canonicalName value)

/-- A name is known as the capability it names. -/
@[simp] theorem ofName?_name (c : Capability) : ofName? c.name = some c := by
  cases c <;> decide

/-- The spelling of a capability in the identifier of an action button; other identifiers belong to
no action button. -/
def buttonSpelling? (id : String) : Option String :=
  if buttonStem.toList.isPrefixOf id.toList then
    some (String.ofList (id.toList.drop buttonStem.length))
  else none

end Capability

/-- The capability that a row action needs a button of. -/
def RowAction.capability : RowAction → Capability
  | .unlock => .unlock
  | .steal => .steal
  | .reserve => .reserve
  | .unreserve => .unreserve
  | .reassign => .reassign
  | .reset => .reset

/-- A row action is the row action of its capability. -/
@[simp] theorem RowAction.rowAction?_capability (a : RowAction) :
    a.capability.rowAction? = some a := by cases a <;> rfl

end Lockable
