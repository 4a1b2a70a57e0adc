/-!
# Double-precision numbers

A `Binary64` is a double-precision number held **exactly**: a sign and two natural numbers, the
value of a finite one being `significand * 2 ^ exponent / 2 ^ 1074`. Arithmetic on them is
arithmetic on natural numbers followed by one rounding, so nothing here is opaque to a proof. Powers
are `Nat.pow`, which means the same whatever other powers are in scope.

* `Binary64.Canonical` says which pairs are the representation of a finite number; the type
  carries it, so a number has one representation.
* `Binary64.ofRatio` rounds a ratio of naturals to the **nearest** number, a tie going to the even
  significand, and overflows to infinity.
* `Binary64.order` compares two numbers as reals; NaN compares with nothing.
-/

namespace Lockable

/-- The pair is the **canonical** representation of a finite number: at most 53 bits, all of them
used unless the exponent is the least one. -/
def Binary64.Canonical (significand exponent : Nat) : Prop :=
  significand < Nat.pow 2 53 ∧ (exponent = 0 ∨ Nat.pow 2 52 ≤ significand) ∧ exponent ≤ 2045

instance (s e : Nat) : Decidable (Binary64.Canonical s e) :=
  inferInstanceAs (Decidable (_ ∧ _ ∧ _))

/-- A double-precision number. A finite one stands for `significand * 2 ^ exponent / 2 ^ 1074`,
with a sign, so that there are two zeros. -/
inductive Binary64 where
  | nan
  | infinite (negative : Bool)
  | finite (negative : Bool) (significand exponent : Nat)
      (canonical : Binary64.Canonical significand exponent)
  deriving DecidableEq

namespace Binary64

/-- Positive or negative zero. -/
def zero (negative : Bool) : Binary64 := .finite negative 0 0 (by decide)

instance : Inhabited Binary64 := ⟨zero false⟩

/-- Whether the sign is negative; NaN has none. -/
def isNegative : Binary64 → Bool
  | .nan => false
  | .infinite n => n
  | .finite n .. => n

/-- The number with the other sign. -/
def neg : Binary64 → Binary64
  | .nan => .nan
  | .infinite n => .infinite !n
  | .finite n s e h => .finite (!n) s e h

/-- Whether the number is one of the two zeros. -/
def isZero : Binary64 → Bool
  | .finite _ s _ _ => s == 0
  | _ => false

/-- Whether the number is neither NaN nor infinite. -/
def isFinite : Binary64 → Bool
  | .finite .. => true
  | _ => false

/-! ### Rounding -/

/-- The quotient rounded to the **nearest** natural number, a tie going to the even one. -/
def roundQuotient (num den : Nat) : Nat :=
  let q := num / den
  let twice := 2 * (num % den)
  if twice < den then q
  else if den < twice then q + 1
  else q + q % 2

/-- The finite number of this representation, or infinity where there is none. -/
def pack (negative : Bool) (significand exponent : Nat) : Binary64 :=
  if h : Canonical significand exponent then .finite negative significand exponent h
  else .infinite negative

/-- The binary exponent of a positive ratio: the greatest `k` with `2 ^ k ≤ num / den`. -/
def ratioLog (num den : Nat) : Int :=
  let k : Int := (num.log2 : Int) - (den.log2 : Int)
  let reaches := if 0 ≤ k then den * Nat.pow 2 k.toNat ≤ num else den ≤ num * Nat.pow 2 (-k).toNat
  if reaches then k else k - 1

/-- The number **nearest** to `num / den`, a tie going to the even significand. -/
def ofRatio (negative : Bool) (num den : Nat) : Binary64 :=
  if num = 0 ∨ den = 0 then zero negative
  else
    let unit := (ratioLog num den + 1022).toNat
    let s := roundQuotient (num * Nat.pow 2 1074) (den * Nat.pow 2 unit)
    if s < Nat.pow 2 53 then pack negative s unit else pack negative (s / 2) (unit + 1)

/-- The number nearest to an integer. -/
def ofInt (n : Int) : Binary64 := ofRatio (n < 0) n.natAbs 1

/-- A finite number as an exact ratio: numerator and denominator of its absolute value. -/
def toRatio : Binary64 → Option (Nat × Nat)
  | .finite _ s e _ =>
    some (if 1074 ≤ e then (s * Nat.pow 2 (e - 1074), 1) else (s, Nat.pow 2 (1074 - e)))
  | _ => none

/-- The integer that a finite number lies on, if it lies on one. -/
def toInt? (x : Binary64) : Option Int :=
  match x.toRatio with
  | some (num, den) =>
    if num % den = 0 then
      some (if x.isNegative then -((num / den : Nat) : Int) else ((num / den : Nat) : Int))
    else none
  | none => none

/-- A finite number cut off toward zero to an integer. -/
def truncate (x : Binary64) : Int :=
  match x.toRatio with
  | some (num, den) =>
    let size := num / den
    if x.isNegative then -(size : Int) else size
  | none => 0

/-! ### Order and arithmetic -/

/-- The signed numerator of a finite number over the common denominator `2 ^ 1074`. -/
def scaled : Binary64 → Int
  | .finite n s e _ =>
    let size := s * Nat.pow 2 e
    if n then -(size : Int) else size
  | _ => 0

/-- The order of two numbers as reals, with infinities at the ends; NaN has no order. -/
def order : Binary64 → Binary64 → Option Ordering
  | .nan, _ => none
  | _, .nan => none
  | .infinite a, .infinite b => some (compare b.toNat a.toNat)
  | .infinite a, _ => some (if a then .lt else .gt)
  | _, .infinite b => some (if b then .gt else .lt)
  | x, y => some (compare x.scaled y.scaled)

/-- The order of an integer and a number as reals. -/
def orderInt (n : Int) : Binary64 → Option Ordering
  | .nan => none
  | .infinite b => some (if b then .gt else .lt)
  | y => some (compare (n * (Nat.pow 2 1074 : Nat)) y.scaled)

/-- Whether two numbers are equal as reals: the zeros are equal, NaN equals nothing. -/
def same (x y : Binary64) : Bool := x.order y == some .eq

/-- The number nearest to an integer over the common denominator `2 ^ 1074`. -/
def ofScaled (n : Int) : Binary64 := ofRatio (n < 0) n.natAbs (Nat.pow 2 1074)

/-- The sum, rounded once. -/
def add : Binary64 → Binary64 → Binary64
  | .nan, _ => .nan
  | _, .nan => .nan
  | .infinite a, .infinite b => if a = b then .infinite a else .nan
  | .infinite a, _ => .infinite a
  | _, .infinite b => .infinite b
  | x, y =>
    if x.isZero && y.isZero then zero (x.isNegative && y.isNegative)
    else ofScaled (x.scaled + y.scaled)

/-- The product, rounded once. -/
def mul (x y : Binary64) : Binary64 :=
  let negative := x.isNegative != y.isNegative
  match x, y with
  | .nan, _ => .nan
  | _, .nan => .nan
  | .infinite _, y => if y.isZero then .nan else .infinite negative
  | x, .infinite _ => if x.isZero then .nan else .infinite negative
  | .finite _ s e _, .finite _ t f _ =>
    ofRatio negative (s * t * Nat.pow 2 (e + f)) (Nat.pow 2 2148)

end Binary64

end Lockable
