import Lockable.ActionBar
import Lockable.Text.Percent

/-!
# Action requests

One batch action for one or more resources, and how it is written into an address. A single
resource goes under `resource`, several go under `resources` with a line feed between them.
-/

namespace Lockable

/-- A batch action. -/
structure ActionRequest where
  action : RowAction
  resources : List String
  resources_ne_nil : resources ≠ []
  deriving DecidableEq

namespace ActionRequest

/-- The request of a capability for some resources. Only a row action can be requested, and only of
at least one resource. -/
def make (c : Capability) (resources : List String) : Except Failure ActionRequest :=
  match c.rowAction? with
  | none => .error (.notRowAction c.name)
  | some action =>
    if h : resources = [] then .error .emptyBatch else .ok ⟨action, resources, h⟩

/-- The one field of the request's form. -/
def field (r : ActionRequest) : String × String :=
  match r.resources with
  | [name] => ("resource", name)
  | names => ("resources", "\n".intercalate names)

/-- The fields of the request's form. -/
def formFields (r : ActionRequest) : List (String × String) := [r.field]

/-- The query part of the request's address. -/
def query (r : ActionRequest) : String :=
  "&".intercalate (r.formFields.map fun f => f.1 ++ "=" ++ Percent.encodeComponent f.2)

/-- The last part of the request's address. -/
def path (r : ActionRequest) : String := r.action.endpoint ++ "?" ++ r.query

/-- The request for the rows that are selected now; none when no row is. -/
def ofSelection (c : Capability) (source : Option Source) :
    Except Failure (Option ActionRequest) :=
  match c.rowAction? with
  | none => .error (.notRowAction c.name)
  | some action => do
    let names ← Source.selection source
    return if h : names = [] then none else some ⟨action, names, h⟩

end ActionRequest

/-- A value as one component of an address; only a text can be one. -/
def Json.encodeComponent : Json → Except Failure String
  | .text s => .ok (Percent.encodeComponent s)
  | _ => .error .notText

end Lockable
