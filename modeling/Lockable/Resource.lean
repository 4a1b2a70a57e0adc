import Lockable.Failure

/-!
# Resources

The state of one lockable resource as it was last seen. A resource may be locked and reserved at
the same time. It is read from a **snapshot** of a page, which is trusted as given, or from an
entry of the server's **listing**, where whoever has reserved it is named and compared with the
current user.
-/

namespace Lockable

/-- What is known of a resource. Who reserved it, the note and the description are kept as the
values that were given. -/
structure Resource where
  name : String
  isLocked : Bool := false
  isReserved : Bool := false
  isQueued : Bool := false
  isEphemeral : Bool := false
  isReservedByCurrentUser : Bool := false
  reservedBy : Json := .null
  note : Json := .text ""
  description : Json := .text ""
  labels : List String := []
  deriving Inhabited

/-- What a resource is doing, the most binding state first. -/
inductive Status where
  | locked
  | reserved
  | queued
  | free
  deriving DecidableEq, Repr

/-- The word for a status. -/
def Status.word : Status → String
  | .locked => "LOCKED"
  | .reserved => "RESERVED"
  | .queued => "QUEUED"
  | .free => "FREE"

namespace Resource

/-- The status of a resource. -/
def status (r : Resource) : Status :=
  if r.isLocked then .locked
  else if r.isReserved then .reserved
  else if r.isQueued then .queued
  else .free

/-- The labels in a value: the words of a text, the items of a list, the keys of an object. -/
def readLabels (value : Json) : Except Failure (List String) :=
  if value.truthy then
    match value with
    | .text s => .ok (Text.words s)
    | .list items => .ok (items.map Json.display)
    | .object members => .ok (members.map (·.1))
    | other => .error (.notIterable other.kind)
  else .ok []

/-- The members of a value that must be an object. -/
def readObject : Json → Except Failure (List (String × Json))
  | .object members => .ok members
  | other => .error (.noAttribute other.kind "get")

/-- A resource from the snapshot of a page. Absent flags are false. -/
def fromSnapshot (payload : Json) : Except Failure Resource := do
  let members ← readObject payload
  let get (key : String) : Json := (Keyed.find? key members).getD .null
  let labels ← readLabels (get "labels")
  return {
    name := ((Keyed.find? "resourceName" members).getD (.text "")).display
    isLocked := (get "isLocked").truthy
    isReserved := (get "isReserved").truthy
    isQueued := (get "isQueued").truthy
    isEphemeral := (get "isEphemeral").truthy
    isReservedByCurrentUser := (get "isReservedByCurrentUser").truthy
    reservedBy := get "reservedBy"
    note := (get "note").orElse (.text "")
    description := (get "description").orElse (.text "")
    labels }

/-- A resource from an entry of the server's listing, seen by `user`. Whoever is named as having
reserved it makes it reserved. -/
def fromListing (entry user : Json) : Except Failure Resource := do
  let members ← readObject entry
  let get (key : String) : Json := (Keyed.find? key members).getD .null
  let reservedBy := (get "reservedBy").orElse .null
  let isReserved := (get "reserved").truthy || reservedBy.truthy
  let userKnown := match user with
    | .null => false
    | _ => true
  let name ← match Keyed.find? "name" members with
    | some name => .ok name.display
    | none => .error (.missingMember "name")
  let labels ← readLabels (get "labels")
  return {
    name
    isLocked := (get "locked").truthy
    isReserved
    isQueued := (get "queued").truthy
    isEphemeral := (get "ephemeral").truthy
    isReservedByCurrentUser := isReserved && userKnown && reservedBy.same user
    reservedBy
    note := (get "note").orElse (.text "")
    description := (get "description").orElse (.text "")
    labels }

end Resource

end Lockable
