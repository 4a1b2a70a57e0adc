/-!
# The length of integers

An integer is read from decimal digits, and shown in them, only up to a **limit** of digits; other
notations have none. The power of ten is `Nat.pow`, as in `Binary64`.
-/

namespace Lockable

/-- The most decimal digits that an integer is read from or shown with. -/
def digitLimit : Nat := 4300

/-- The words for more digits than an integer is read from. -/
def tooManyDigits (digits : Nat) : String :=
  s!"Exceeds the limit ({digitLimit} digits) for integer string conversion: value has {digits} " ++
    "digits; use sys.set_int_max_str_digits() to increase the limit"

/-- The words for an integer that has more digits than are shown. -/
def tooLongToShow : String :=
  s!"Exceeds the limit ({digitLimit} digits) for integer string conversion; use " ++
    "sys.set_int_max_str_digits() to increase the limit"

/-- The integer can be shown in decimal digits. -/
def Showable (n : Int) : Prop := n.natAbs < Nat.pow 10 digitLimit

instance (n : Int) : Decidable (Showable n) :=
  inferInstanceAs (Decidable (n.natAbs < Nat.pow 10 digitLimit))

theorem showable_of_lt {n : Int} (h : n.natAbs < Nat.pow 10 3) : Showable n := by
  -- for any exponent, so that the power of the limit is never computed
  have hpow (k : Nat) (hk : 3 ≤ k) : Nat.pow 10 3 ≤ Nat.pow 10 k :=
    Nat.pow_le_pow_right (by decide) hk
  exact Nat.lt_of_lt_of_le h (hpow digitLimit (by decide))

theorem not_showable_of_le {n : Nat} (h : Nat.pow 10 digitLimit ≤ n) : ¬Showable n :=
  Nat.not_lt.mpr h

end Lockable
