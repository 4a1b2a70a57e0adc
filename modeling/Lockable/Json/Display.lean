import Lockable.Json
import Lockable.Number.Limit
import Lockable.Text.Quoted

/-!
# JSON values in messages

How a value stands in a name, a label or a message. A text stands for itself; inside a list or an
object it is quoted. Null is `None`, the booleans are capitalised, and numbers with a point keep
it.

An integer that is too long is not shown, and nothing that has it in it (`Json.showable`). What was
read as JSON has none.
-/

namespace Lockable.Json

/-- The decimal text of an integer. -/
def intText (n : Int) : String :=
  String.ofList (if n < 0 then '-' :: Nat.toDigits 10 n.natAbs else Nat.toDigits 10 n.natAbs)

mutual

/-- Whether every integer in a value can be shown. -/
def showable : Json → Bool
  | .int n => Showable n
  | .list items => showableItems items
  | .object members => showableMembers members
  | _ => true

/-- Whether the items of a list can be shown. -/
def showableItems : List Json → Bool
  | [] => true
  | j :: rest => showable j && showableItems rest

/-- Whether the values of members can be shown. -/
def showableMembers : List (String × Json) → Bool
  | [] => true
  | (_, v) :: rest => showable v && showableMembers rest

end

@[simp]
theorem showable_list_iff {items : List Json} :
    (list items).showable = true ↔ ∀ j ∈ items, j.showable = true := by
  rw [showable]
  induction items with
  | nil => simp [showableItems]
  | cons j rest ih => rw [showableItems, Bool.and_eq_true, ih, List.forall_mem_cons]

@[simp]
theorem showable_object_iff {members : List (String × Json)} :
    (object members).showable = true ↔ ∀ e ∈ members, e.2.showable = true := by
  rw [showable]
  induction members with
  | nil => simp [showableMembers]
  | cons e rest ih => rw [showableMembers, Bool.and_eq_true, ih, List.forall_mem_cons]

@[simp]
theorem showable_text (s : String) : (text s).showable = true := rfl

mutual

/-- A value as it is shown inside another. -/
def shown : Json → String
  | .null => "None"
  | .bool b => if b then "True" else "False"
  | .int n => intText n
  | .float x => x.text
  | .text s => Text.quoted s
  | .list items => "[" ++ ", ".intercalate (shownItems items) ++ "]"
  | .object members => "\x7b" ++ ", ".intercalate (shownMembers members) ++ "\x7d"

/-- The items of a list as they are shown. -/
def shownItems : List Json → List String
  | [] => []
  | j :: rest => shown j :: shownItems rest

/-- The members of an object as they are shown: the key quoted, then the value. -/
def shownMembers : List (String × Json) → List String
  | [] => []
  | (k, v) :: rest => (Text.quoted k ++ ": " ++ shown v) :: shownMembers rest

end

/-- A value as a text of its own. -/
def display : Json → String
  | .text s => s
  | j => shown j

end Lockable.Json
