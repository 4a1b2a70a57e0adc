import Lockable.Keyed
import Lockable.Number.Decimal

/-!
# JSON values

The values that listings, crumbs, permission mappings and log records are made of. An object keeps
its members in order; a key that is set again keeps its **first place** and takes the last value.

* `Json.member?` is what an object says under a key.
* `Json.truthy` is what counts as given: null, false, zeros and everything empty do not.
* `Json.same` compares values: numbers and booleans by what they are worth, objects without regard
  to order.
-/

namespace Lockable

/-- A JSON value. Integers have any size and are kept apart from double-precision numbers. -/
inductive Json where
  | null
  | bool (value : Bool)
  | int (value : Int)
  | float (value : Binary64)
  | text (value : String)
  | list (items : List Json)
  | object (members : List (String × Json))
  deriving Inhabited

namespace Json

/-! ### Members -/

/-- The object of these members in order, a later value of a key replacing an earlier one. -/
def ofMembers (members : List (String × Json)) : Json :=
  .object (Keyed.ofEntries members)

/-- The value under a key of an object; other values have no members. -/
def member? (key : String) : Json → Option Json
  | .object members => Keyed.find? key members
  | _ => none

/-- The value under a key of an object, null if there is none. -/
def member (key : String) (j : Json) : Json := (j.member? key).getD .null

/-- The name of the kind of a value, as messages have it. -/
def kind : Json → String
  | .null => "NoneType"
  | .bool _ => "bool"
  | .int _ => "int"
  | .float _ => "float"
  | .text _ => "str"
  | .list _ => "list"
  | .object _ => "dict"

/-! ### Truth -/

/-- Whether a value counts as given: all do but null, false, zeros and the empty ones. -/
def truthy : Json → Bool
  | .null => false
  | .bool b => b
  | .int n => n != 0
  | .float x => !x.isZero
  | .text s => !s.isEmpty
  | .list items => !items.isEmpty
  | .object members => !members.isEmpty

/-- The value if it counts as given, else a default. -/
def orElse (j default : Json) : Json := if j.truthy then j else default

/-! ### Sameness -/

/-- The integer that an integer or boolean is worth. -/
def worth : Json → Option Int
  | .bool b => some b.toNat
  | .int n => some n
  | _ => none

/-- Whether two values are numbers or booleans worth the same. -/
def sameNumber : Json → Json → Bool
  | .float x, .float y => x.same y
  | .float x, j => (worth j).any fun n => Binary64.orderInt n x == some .eq
  | i, .float y => (worth i).any fun n => Binary64.orderInt n y == some .eq
  | i, j => (worth i).any fun n => worth j == some n

mutual

/-- Whether two values are the same: numbers and booleans by what they are worth, lists item by
item, objects key by key in any order. -/
def same : Json → Json → Bool
  | .null, .null => true
  | .text s, .text t => s == t
  | .list xs, .list ys => sameItems xs ys
  | .object xs, .object ys => xs.length == ys.length && sameMembers xs ys
  | x, y => sameNumber x y

/-- Whether two lists have the same items in the same order. -/
def sameItems : List Json → List Json → Bool
  | [], [] => true
  | x :: xs, y :: ys => same x y && sameItems xs ys
  | _, _ => false

/-- Whether every one of the first members has its like among the second. -/
def sameMembers : List (String × Json) → List (String × Json) → Bool
  | [], _ => true
  | (k, x) :: xs, ys =>
    (match Keyed.find? k ys with
    | some y => same x y
    | none => false) && sameMembers xs ys

end

end Json

end Lockable
