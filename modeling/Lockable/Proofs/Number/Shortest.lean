import Lockable.Proofs.Number.Nearest

/-!
# Decimals that read back

A decimal may be written with more zeros or with fewer: what it reads as depends on its **value**
(`Binary64.ofDecimal_mul_pow`, `Binary64.ofDecimal_trim`). The whole expansion of a number reads as
that number (`Binary64.ofDecimal_exact`), and so does the shortest decimal, since it was read back
before it was taken (`Binary64.ofDecimal_shortest`).
-/

namespace Lockable

/-! ### Digits -/

/-- Zeros at the end are so many more digits. -/
theorem length_toDigits_mul_pow {m : Nat} (hm : m ≠ 0) (k : Nat) :
    (Nat.toDigits 10 (m * 10 ^ k)).length = (Nat.toDigits 10 m).length + k := by
  induction k with
  | zero => rw [pow_zero, mul_one, Nat.add_zero]
  | succ k ih =>
    have hpos : 0 < m * 10 ^ k := Nat.mul_pos (Nat.pos_of_ne_zero hm) (Nat.pow_pos (by decide))
    rw [pow_succ, ← mul_assoc, Nat.toDigits_of_base_le (by decide) (by omega),
      Nat.mul_div_cancel _ (by decide), List.length_append, ih]
    rfl

/-- A power of ten has one digit more than its exponent. -/
theorem lt_length_toDigits {m k : Nat} (h : 10 ^ k ≤ m) : k < (Nat.toDigits 10 m).length := by
  rcases Nat.eq_zero_or_pos k with rfl | hk
  · exact Nat.length_toDigits_pos
  · exact not_le.mp ((Nat.length_toDigits_le_iff (by decide) hk).not.mpr (not_lt.mpr h))

namespace Decimal

/-- Ten to this is the first power that is beyond the decimal. -/
def magnitude (d : Decimal) : Int := d.digitText.length + d.exponent

theorem magnitude_mul_pow (n : Bool) {m : Nat} (hm : m ≠ 0) (k : Nat) (e : Int) :
    magnitude ⟨n, m * 10 ^ k, e⟩ = magnitude ⟨n, m, e + k⟩ := by
  rw [magnitude, magnitude, digitText, digitText, length_toDigits_mul_pow hm]
  push_cast
  ring

theorem stripZeros_spec (fuel m : Nat) (e : Int) :
    ∃ k : Nat, m = (stripZeros fuel m e).1 * 10 ^ k ∧ (stripZeros fuel m e).2 = e + k := by
  induction fuel generalizing m e with
  | zero => exact ⟨0, by simp [stripZeros], by simp [stripZeros]⟩
  | succ fuel ih =>
    rw [stripZeros]
    split
    · next h =>
      obtain ⟨k, hm, he⟩ := ih (m / 10) (e + 1)
      refine ⟨k + 1, ?_, by rw [he]; push_cast; ring⟩
      rw [pow_succ, ← mul_assoc, ← hm]
      omega
    · exact ⟨0, by simp, by simp⟩

end Decimal

namespace Binary64

variable {s e : Nat}

/-- Within the range of magnitudes a decimal is a ratio of natural numbers. -/
theorem ofDecimal_eq_ite (d : Decimal) :
    ofDecimal d =
      if d.digits = 0 then zero d.negative
      else if 311 < d.magnitude then .infinite d.negative
      else if d.magnitude < -330 then zero d.negative
      else ofRatio d.negative (d.digits * 10 ^ d.exponent.toNat) (10 ^ (-d.exponent).toNat) := by
  rw [ofDecimal]
  refine if_congr Iff.rfl rfl (if_congr Iff.rfl rfl (if_congr Iff.rfl rfl ?_))
  split
  · next h =>
    have hneg : (-d.exponent).toNat = 0 := by omega
    rw [hneg]
    rfl
  · next h =>
    have hpos : d.exponent.toNat = 0 := by omega
    rw [hpos, pow_zero, mul_one]
    rfl

theorem ofDecimal_of_digits_eq_zero {d : Decimal} (h : d.digits = 0) :
    ofDecimal d = zero d.negative := if_pos h

/-- **Zeros at the end** of the digits are powers of ten. -/
theorem ofDecimal_mul_pow (n : Bool) (m k : Nat) (e : Int) :
    ofDecimal ⟨n, m * 10 ^ k, e⟩ = ofDecimal ⟨n, m, e + k⟩ := by
  by_cases hm : m = 0
  · subst hm
    rw [ofDecimal_of_digits_eq_zero (zero_mul _), ofDecimal_of_digits_eq_zero rfl]
  · have hpow : m * 10 ^ k ≠ 0 := Nat.mul_ne_zero hm (Nat.pow_pos (by decide)).ne'
    rw [ofDecimal_eq_ite, ofDecimal_eq_ite, if_neg hm, if_neg hpow,
      Decimal.magnitude_mul_pow n hm]
    refine if_congr Iff.rfl rfl (if_congr Iff.rfl rfl (ofRatio_congr ?_ ?_ ?_))
    · exact (Nat.pow_pos (by decide)).ne'
    · exact (Nat.pow_pos (by decide)).ne'
    · have hexp : k + e.toNat + (-(e + k)).toNat = (e + k).toNat + (-e).toNat := by omega
      calc m * 10 ^ k * 10 ^ e.toNat * 10 ^ (-(e + k)).toNat
          = m * 10 ^ (k + e.toNat + (-(e + k)).toNat) := by rw [pow_add, pow_add]; ring
        _ = m * 10 ^ (e + k).toNat * 10 ^ (-e).toNat := by rw [hexp, pow_add]; ring

/-- A decimal reads the same without the zeros at its end. -/
theorem ofDecimal_trim (d : Decimal) : ofDecimal d.trim = ofDecimal d := by
  rw [Decimal.trim]
  split
  · next h => rw [ofDecimal_of_digits_eq_zero h, ofDecimal_of_digits_eq_zero rfl]
  · obtain ⟨k, hdigits, hexponent⟩ :=
      Decimal.stripZeros_spec d.digitText.length d.digits d.exponent
    dsimp only
    rw [hexponent, ← ofDecimal_mul_pow, ← hdigits]

/-- The whole expansion has places after the point as long as the exponent is below 1074. -/
theorem exact_cases (n : Bool) (s e : Nat) :
    (∃ k, e = 1074 + k ∧ exact n s e = ⟨n, s * 2 ^ k, 0⟩) ∨
      ∃ k, 0 < k ∧ e + k = 1074 ∧ exact n s e = ⟨n, s * 5 ^ k, -(k : Int)⟩ := by
  by_cases h : 1074 ≤ e
  · exact .inl ⟨e - 1074, by omega, by rw [exact, if_pos h]; rfl⟩
  · exact .inr ⟨1074 - e, by omega, by omega, by rw [exact, if_neg h]; rfl⟩

/-- Of the places after the point only the first 331 can do without a digit. -/
theorem pow_le_mul_pow {k : Nat} (hk : k ≤ 1074) (hs : s ≠ 0) : 10 ^ (k - 331) ≤ s * 5 ^ k := by
  by_cases hle : k ≤ 331
  · rw [Nat.sub_eq_zero_of_le hle, pow_zero]
    exact Nat.mul_pos (Nat.pos_of_ne_zero hs) (Nat.pow_pos (by decide))
  · obtain ⟨j, rfl⟩ : ∃ j, k = 331 + j := ⟨k - 331, by omega⟩
    rw [Nat.add_sub_cancel_left]
    calc 10 ^ j = 2 ^ j * 5 ^ j := Nat.mul_pow 2 5 j
      _ ≤ 2 ^ 743 * 5 ^ j := by
        gcongr
        · decide
        · omega
      _ ≤ 5 ^ 331 * 5 ^ j := Nat.mul_le_mul_right _ (by decide +kernel)
      _ = 5 ^ (331 + j) := (pow_add _ _ _).symm
      _ ≤ s * 5 ^ (331 + j) := Nat.le_mul_of_pos_left _ (Nat.pos_of_ne_zero hs)

/-- The whole expansion of a number is within the range of magnitudes. -/
theorem magnitude_exact (n : Bool) (h : Canonical s e) (hs : s ≠ 0) :
    ¬ 311 < (exact n s e).magnitude ∧ ¬ (exact n s e).magnitude < -330 := by
  have hlt : s < 2 ^ 53 := h.1
  have he : e ≤ 2045 := h.2.2
  rcases exact_cases n s e with ⟨k, rfl, heq⟩ | ⟨k, hk, hadd, heq⟩
  · have hupper : s * 2 ^ k < 10 ^ 311 :=
      calc s * 2 ^ k < 2 ^ 53 * 2 ^ k := Nat.mul_lt_mul_of_pos_right hlt (Nat.two_pow_pos _)
        _ ≤ 2 ^ 53 * 2 ^ 971 := Nat.mul_le_mul_left _ (Nat.pow_le_pow_right (by decide) (by omega))
        _ ≤ 10 ^ 311 := by decide +kernel
    have hlength := (Nat.length_toDigits_le_iff (b := 10) (by decide) (by decide)).mpr hupper
    rw [heq, Decimal.magnitude, Decimal.digitText]
    dsimp only
    omega
  · have hupper : s * 5 ^ k < 10 ^ (311 + k) :=
      calc s * 5 ^ k < 2 ^ 53 * 5 ^ k := Nat.mul_lt_mul_of_pos_right hlt (Nat.pow_pos (by decide))
        _ ≤ 10 ^ 311 * 10 ^ k :=
          Nat.mul_le_mul (by decide +kernel) (Nat.pow_le_pow_left (by decide) k)
        _ = 10 ^ (311 + k) := (pow_add _ _ _).symm
    have hlength := (Nat.length_toDigits_le_iff (b := 10) (by decide) (by omega)).mpr hupper
    have hlength' := lt_length_toDigits (pow_le_mul_pow (k := k) (by omega) hs)
    rw [heq, Decimal.magnitude, Decimal.digitText]
    dsimp only
    omega

/-- **The whole expansion** of a number reads as the number. -/
theorem ofDecimal_exact (n : Bool) (h : Canonical s e) :
    ofDecimal (exact n s e) = .finite n s e h := by
  by_cases hs : s = 0
  · subst hs
    obtain rfl : e = 0 := h.2.1.resolve_right (by decide)
    have hdigits : (exact n 0 0).digits = 0 := by
      rcases exact_cases n 0 0 with ⟨k, hk, -⟩ | ⟨k, -, -, heq⟩
      · omega
      · rw [heq]
        exact Nat.zero_mul _
    exact ofDecimal_of_digits_eq_zero hdigits
  · obtain ⟨hupper, hlower⟩ := magnitude_exact n h hs
    obtain ⟨p, hp⟩ : ∃ p, p = 1074 := ⟨_, rfl⟩
    rcases exact_cases n s e with ⟨k, he, heq⟩ | ⟨k, hk, hadd, heq⟩ <;> rw [heq] at hupper hlower ⊢
    · have hdigits : s * 2 ^ k ≠ 0 := Nat.mul_ne_zero hs (Nat.two_pow_pos k).ne'
      rw [ofDecimal_eq_ite, if_neg hdigits, if_neg hupper, if_neg hlower]
      refine ofRatio_eq_finite h hp (by simp) ?_
      rw [he, ← hp, pow_add]
      simp only [Int.toNat_zero, neg_zero, pow_zero]
      ring
    · have hdigits : s * 5 ^ k ≠ 0 := Nat.mul_ne_zero hs (Nat.pow_pos (by decide)).ne'
      have hten : (10 : Nat) ^ k = 2 ^ k * 5 ^ k := Nat.mul_pow 2 5 k
      rw [ofDecimal_eq_ite, if_neg hdigits, if_neg hupper, if_neg hlower]
      refine ofRatio_eq_finite h hp (Nat.pow_pos (by decide)).ne' ?_
      simp only [Int.toNat_neg_natCast, neg_neg, Int.toNat_natCast, pow_zero]
      rw [hp, ← hadd, hten, pow_add]
      ring

/-- **The shortest decimal** reads as the number. -/
theorem ofDecimal_shortest (n : Bool) (h : Canonical s e) :
    ofDecimal (shortest n s e h) = .finite n s e h := by
  rw [shortest, ofDecimal_trim]
  generalize hfound : List.find? _ _ = found
  cases found with
  | none => exact ofDecimal_exact n h
  | some d => simpa using List.find?_some hfound

end Binary64

end Lockable
