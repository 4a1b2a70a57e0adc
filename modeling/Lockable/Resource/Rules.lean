import Lockable.Permissions
import Lockable.Resource

/-!
# Rules

Which row actions are valid for a resource under the permissions of the session. The rules say what
the server will accept, so that the action bar need not offer what is bound to fail; the server
still decides.

An administrator may unreserve and reassign whatever is reserved, anyone else only what they have
reserved themselves.
-/

namespace Lockable.Resource

/-- Whether the resource can be unlocked: it is taken in some way. -/
def canUnlock (p : Permissions) (r : Resource) : Bool :=
  (r.isLocked || r.isReserved) && p.allows .unlock

/-- Whether the lock can be stolen: there is one, and the resource outlives it. -/
def canSteal (p : Permissions) (r : Resource) : Bool :=
  !r.isEphemeral && r.isLocked && p.allows .steal

/-- Whether the resource can be reserved: nobody has it or waits for it. -/
def canReserve (p : Permissions) (r : Resource) : Bool :=
  !(r.isLocked || r.isReserved || r.isQueued) && p.allows .reserve

/-- Whether the reservation can be given up. -/
def canUnreserve (p : Permissions) (r : Resource) : Bool :=
  if p.allows .administer then r.isReserved
  else r.isReservedByCurrentUser && p.allows .unreserve

/-- Whether the resource can be reassigned. Who owns the lock of a running build is not visible, so
a lock alone is left to administrators. -/
def canReassign (p : Permissions) (r : Resource) : Bool :=
  if r.isReserved then
    p.allows .administer
      || (r.isReservedByCurrentUser && p.allows .unreserve && p.allows .reassign)
  else r.isLocked && p.allows .administer

/-- Whether the resource can be reset: it can be freed, or something waits for it. -/
def canReset (p : Permissions) (r : Resource) : Bool :=
  p.allows .reset && (r.canUnlock p || r.canUnreserve p || r.isQueued)

/-- Whether the action is valid for the resource. -/
def allows (p : Permissions) (r : Resource) : RowAction → Bool
  | .unlock => r.canUnlock p
  | .steal => r.canSteal p
  | .reserve => r.canReserve p
  | .unreserve => r.canUnreserve p
  | .reassign => r.canReassign p
  | .reset => r.canReset p

/-- Whether the capability is valid for the resource; only row actions have a rule. -/
def allowsCapability (p : Permissions) (r : Resource) (c : Capability) : Except Failure Bool :=
  match c.rowAction? with
  | some a => .ok (r.allows p a)
  | none => .error (.noButton c)

/-- The actions that are valid for the resource, in the order of the action bar. -/
def allowedActions (p : Permissions) (r : Resource) : List RowAction :=
  RowAction.all.filter (r.allows p)

end Lockable.Resource
