import Lockable.Keyed
import Lockable.Resource

/-!
# The selection

Which rows are checked is never stored here: it is **read** from the table each time, so that it is
what the user sees. What is stored are the snapshots of the rows, each under its own name.

* `Source.selection` is the current selection: every checked name once, in the order in which it
  first occurs, and nothing while there is no table.
* `Snapshots.selected` are the snapshots of the selection. A checked row without a snapshot is left
  out here and still counts as selected.
-/

namespace Lockable

/-- Why a table cannot say which of its rows are checked: it is not there (yet), or it broke. -/
inductive SourceFailure where
  | unavailable
  | broken (cause : String)
  deriving DecidableEq, Repr

/-- A table: the names of its checked rows in row order, and what is wrong with it. -/
structure Source where
  checked : List String := []
  failure : Option SourceFailure := none
  deriving DecidableEq, Repr, Inhabited

/-- The names without repetitions, in the order of first occurrence. -/
def distinct : List String → List String
  | [] => []
  | name :: rest => name :: (distinct rest).filter (· ≠ name)

namespace Source

/-- The names of the selected rows of a table, if there is a table. -/
def selection : Option Source → Except Failure (List String)
  | none => .ok []
  | some s =>
    match s.failure with
    | none => .ok (distinct s.checked)
    | some .unavailable => .ok []
    | some (.broken cause) => .error (.brokenSource cause)

/-- Unchecks every row of a table, if there is a table. -/
def cleared : Option Source → Except Failure (Option Source)
  | none => .ok none
  | some s =>
    match s.failure with
    | none => .ok (some { s with checked := [] })
    | some .unavailable => .ok (some s)
    | some (.broken cause) => .error (.brokenSource cause)

end Source

/-- The last snapshot of every row that has been seen, under its name. -/
abbrev Snapshots : Type := List (String × Resource)

namespace Snapshots

/-- Records a snapshot in place of an older one of that name. -/
def record (r : Resource) (snapshots : Snapshots) : Snapshots := Keyed.insert r.name r snapshots

/-- The snapshot of a name. -/
def get? (name : String) (snapshots : Snapshots) : Option Resource := Keyed.find? name snapshots

/-- Drops the snapshot of a name. -/
def forget (name : String) (snapshots : Snapshots) : Snapshots := Keyed.erase name snapshots

/-- The snapshots of these names, in their order. -/
def selected (names : List String) (snapshots : Snapshots) : List Resource :=
  names.filterMap (get? · snapshots)

end Snapshots

end Lockable
