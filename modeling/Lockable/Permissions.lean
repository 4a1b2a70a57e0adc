import Lockable.Failure

/-!
# Permissions

A server or a configuration **grants** some capabilities, under any spelling of their names. The
permissions of the session are what follows from the grants: administering grants everything,
unlocking includes resetting, stealing includes reassigning, reserving includes unreserving, and
whoever may do any of these may edit notes.

* `PermissionKey` is what a mapping can have as a key: a capability, or a text that may spell one.
* `Grants.Gives` says what a mapping grants, `Grants.collect` gathers it in one pass.
* `Permissions.ofMapping` is the table that follows from a mapping, and `Permissions.derive` the one
  for what is read from a file, where all keys are texts.
-/

namespace Lockable

/-- Which capabilities the current user has. -/
structure Permissions where
  allows : Capability → Bool

/-- A key of a permission mapping. -/
inductive PermissionKey where
  /-- A capability itself. -/
  | capability (c : Capability)
  /-- A text, which may spell a capability. -/
  | text (s : String)

/-- The capability that a key stands for. -/
def PermissionKey.read? : PermissionKey → Option Capability
  | .capability c => some c
  | .text s => Capability.read? (.text s)

namespace Grants

/-- The mapping **gives** the capability: one of its keys stands for it and has a value that
counts. -/
def Gives (members : List (PermissionKey × Json)) (c : Capability) : Prop :=
  ∃ m ∈ members, m.1.read? = some c ∧ m.2.truthy = true

/-- The mapping gives the capability, where all its keys are texts. -/
def Given (members : List (String × Json)) (c : Capability) : Prop :=
  ∃ m ∈ members, Capability.read? (.text m.1) = some c ∧ m.2.truthy = true

/-- The members of a mapping whose keys are texts. -/
def ofTexts (members : List (String × Json)) : List (PermissionKey × Json) :=
  members.map fun m => (.text m.1, m.2)

/-- Whether the capability is granted. -/
def has (grants : List (Capability × Bool)) (c : Capability) : Bool :=
  (Keyed.find? c grants).getD false

/-- Notes one more grant; a capability once granted stays granted. -/
def note (grants : List (Capability × Bool)) (m : PermissionKey × Json) :
    List (Capability × Bool) :=
  match m.1.read? with
  | none => grants
  | some c => Keyed.insert c (has grants c || m.2.truthy) grants

/-- The grants of a mapping, gathered in its order. Keys that stand for no capability are
ignored. -/
def collect (members : List (PermissionKey × Json)) : List (Capability × Bool) :=
  members.foldl note []

end Grants

namespace Permissions

/-- No capability at all. -/
def none : Permissions := ⟨fun _ => false⟩

/-- What follows from four grants. -/
def ofGrants (unlock steal reserve administer : Bool) : Permissions where
  allows
    | .unlock => unlock || administer
    | .reset => unlock || administer
    | .steal => steal || administer
    | .reassign => steal || administer
    | .reserve => reserve || administer
    | .unreserve => reserve || administer
    | .edit => reserve || unlock || steal || administer
    | .administer => administer

/-- What follows from a mapping. -/
def ofMapping (members : List (PermissionKey × Json)) : Permissions :=
  let grants := Grants.collect members
  ofGrants (Grants.has grants .unlock) (Grants.has grants .steal) (Grants.has grants .reserve)
    (Grants.has grants .administer)

/-- What follows from the members of a mapping whose keys are texts. -/
def ofMembers (members : List (String × Json)) : Permissions := ofMapping (Grants.ofTexts members)

/-- The members of a permission mapping. A value that does not count is no mapping and grants
nothing; any other value that is no object cannot be read. -/
def members (raw : Json) : Except Failure (List (String × Json)) :=
  if raw.truthy then
    match raw with
    | .object members => .ok members
    | other => .error (.noAttribute other.kind "items")
  else .ok []

/-- What follows from a permission mapping. -/
def derive (raw : Json) : Except Failure Permissions := (members raw).map ofMembers

/-- The capabilities that the user has, in their usual order. -/
def held (p : Permissions) : List Capability := Capability.all.filter p.allows

end Permissions

end Lockable
