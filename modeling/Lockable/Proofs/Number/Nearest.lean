import Mathlib.Algebra.Order.Ring.Nat
import Mathlib.Data.Nat.Log
import Mathlib.Tactic.Ring
import Lockable.Number.Decimal

/-!
# The nearest number

Which number is nearest to a ratio depends on the **ratio** alone and not on how it is written
(`Binary64.ofRatio_congr`), and a ratio that is a number is read as that number
(`Binary64.ofRatio_eq_finite`).
-/

namespace Lockable.Binary64

variable {num den num' den' s e c : Nat} {n : Bool}

/-! ### The binary exponent -/

/-- The ratio is `2 ^ k` or more. -/
def Reaches (num den : Nat) (k : Int) : Prop := den * 2 ^ k.toNat ≤ num * 2 ^ (-k).toNat

instance (k : Int) : Decidable (Reaches num den k) := inferInstanceAs (Decidable (_ ≤ _))

/-- Powers of two that both sides have in common do not matter. -/
theorem reaches_iff {k : Int} {p q : Nat} (h : k = p - q) :
    Reaches num den k ↔ den * 2 ^ p ≤ num * 2 ^ q := by
  obtain ⟨m, rfl, rfl⟩ : ∃ m, p = k.toNat + m ∧ q = (-k).toNat + m :=
    ⟨min p q, by omega, by omega⟩
  rw [Reaches, pow_add, pow_add, ← mul_assoc, ← mul_assoc]
  exact (Nat.mul_le_mul_right_iff (Nat.two_pow_pos m)).symm

/-- A ratio that reaches a power of two reaches the lesser ones. -/
theorem Reaches.anti {j k : Int} (h : Reaches num den k) (hjk : j ≤ k) : Reaches num den j := by
  -- both exponents over one `q`
  obtain ⟨q, p, p', hk, hj, hp⟩ : ∃ q p p' : Nat, k = p - q ∧ j = p' - q ∧ p' ≤ p :=
    ⟨j.natAbs, (k + j.natAbs).toNat, (j + j.natAbs).toNat, by omega, by omega, by omega⟩
  rw [reaches_iff hj]
  calc den * 2 ^ p' ≤ den * 2 ^ p := by gcongr; omega
    _ ≤ num * 2 ^ q := (reaches_iff hk).mp h

theorem reaches_mul_left_iff (hc : 0 < c) (k : Int) :
    Reaches (c * num) (c * den) k ↔ Reaches num den k := by
  rw [Reaches, mul_assoc, mul_assoc]
  exact Nat.mul_le_mul_left_iff hc

theorem ratioLog_eq_ite (num den : Nat) :
    ratioLog num den = if Reaches num den (num.log2 - den.log2) then (num.log2 : Int) - den.log2
      else (num.log2 : Int) - den.log2 - 1 := by
  dsimp only [ratioLog]
  refine if_congr ?_ rfl rfl
  generalize (num.log2 : Int) - den.log2 = k
  rw [Reaches]
  split
  · have hk : (-k).toNat = 0 := by omega
    rw [hk, pow_zero, mul_one]
    rfl
  · have hk : k.toNat = 0 := by omega
    rw [hk, pow_zero, mul_one]
    rfl

/-- The binary exponent is the greatest one that the ratio reaches. -/
theorem ratioLog_eq_iff (hnum : num ≠ 0) (hden : den ≠ 0) {k : Int} :
    ratioLog num den = k ↔ Reaches num den k ∧ ¬ Reaches num den (k + 1) := by
  have hlower : Reaches num den (num.log2 - den.log2 - 1) := by
    rw [reaches_iff (p := num.log2) (q := den.log2 + 1) (by omega), mul_comm]
    exact Nat.mul_le_mul (Nat.log2_self_le hnum) Nat.lt_log2_self.le
  have hupper : ¬ Reaches num den (num.log2 - den.log2 + 1) := by
    rw [reaches_iff (p := num.log2 + 1) (q := den.log2) (by omega), not_le, mul_comm den]
    exact Nat.mul_lt_mul_of_lt_of_le Nat.lt_log2_self (Nat.log2_self_le hden)
      (Nat.pos_of_ne_zero hden)
  -- the exponent that is computed has the property, and no other one has
  have hlog : Reaches num den (ratioLog num den) ∧ ¬ Reaches num den (ratioLog num den + 1) := by
    rw [ratioLog_eq_ite]
    split
    · next h => exact ⟨h, hupper⟩
    · next h => exact ⟨hlower, by rwa [sub_add_cancel]⟩
  constructor
  · rintro rfl
    exact hlog
  · rintro ⟨hk, hk'⟩
    refine le_antisymm (not_lt.mp fun h => hk' ?_) (not_lt.mp fun h => hlog.2 ?_)
    · exact hlog.1.anti (by omega)
    · exact hk.anti (by omega)

/-! ### Rounding -/

theorem roundQuotient_mul_left (hc : 0 < c) :
    roundQuotient (c * num) (c * den) = roundQuotient num den := by
  have htwice : 2 * (c * (num % den)) = c * (2 * (num % den)) := by ring
  rw [roundQuotient, roundQuotient, Nat.mul_div_mul_left _ _ hc, Nat.mul_mod_mul_left]
  simp only [htwice, Nat.mul_lt_mul_left hc]

/-- A quotient without remainder is not rounded. -/
theorem roundQuotient_mul_self (hden : den ≠ 0) : roundQuotient (s * den) den = s := by
  simp [roundQuotient, Nat.mul_div_cancel s (Nat.pos_of_ne_zero hden), Nat.pos_of_ne_zero hden]

/-- A factor that both terms of a ratio have does not matter. -/
theorem ofRatio_mul_left (hc : 0 < c) : ofRatio n (c * num) (c * den) = ofRatio n num den := by
  by_cases hzero : num = 0 ∨ den = 0
  · rw [ofRatio, ofRatio, if_pos hzero, if_pos (hzero.imp (by simp [·]) (by simp [·]))]
  · obtain ⟨hnum, hden⟩ := not_or.mp hzero
    have hnum' : c * num ≠ 0 := Nat.mul_ne_zero hc.ne' hnum
    have hden' : c * den ≠ 0 := Nat.mul_ne_zero hc.ne' hden
    have hlog : ratioLog (c * num) (c * den) = ratioLog num den := by
      rw [ratioLog_eq_iff hnum' hden', reaches_mul_left_iff hc, reaches_mul_left_iff hc]
      exact (ratioLog_eq_iff hnum hden).mp rfl
    have hzero' : ¬ (c * num = 0 ∨ c * den = 0) := not_or.mpr ⟨hnum', hden'⟩
    rw [ofRatio, ofRatio, if_neg hzero, if_neg hzero', hlog]
    simp only [mul_assoc, roundQuotient_mul_left hc]

/-- **Equal ratios** have the same nearest number. -/
theorem ofRatio_congr (hden : den ≠ 0) (hden' : den' ≠ 0) (h : num * den' = num' * den) :
    ofRatio n num den = ofRatio n num' den' := by
  calc ofRatio n num den = ofRatio n (den' * num) (den' * den) :=
        (ofRatio_mul_left (Nat.pos_of_ne_zero hden')).symm
    _ = ofRatio n (den * num') (den * den') := by
        rw [mul_comm den' num, h, mul_comm num' den, mul_comm den' den]
    _ = ofRatio n num' den' := ofRatio_mul_left (Nat.pos_of_ne_zero hden)

theorem ratioLog_scaled (hs : s ≠ 0) (e k : Nat) :
    ratioLog (s * 2 ^ e) (2 ^ k) = (s.log2 : Int) + e - k := by
  have hpos : 0 < 2 ^ k * 2 ^ e := Nat.mul_pos (Nat.two_pow_pos k) (Nat.two_pow_pos e)
  have hright : s * 2 ^ e * 2 ^ k = 2 ^ k * 2 ^ e * s := by ring
  rw [ratioLog_eq_iff (Nat.mul_ne_zero hs (Nat.two_pow_pos e).ne') (Nat.two_pow_pos k).ne']
  rw [reaches_iff (p := s.log2 + e) (q := k) (by omega),
    reaches_iff (p := s.log2 + 1 + e) (q := k) (by omega), hright]
  constructor
  · calc 2 ^ k * 2 ^ (s.log2 + e) = 2 ^ k * 2 ^ e * 2 ^ s.log2 := by rw [pow_add]; ring
      _ ≤ 2 ^ k * 2 ^ e * s := Nat.mul_le_mul_left _ (Nat.log2_self_le hs)
  · rw [not_le]
    calc 2 ^ k * 2 ^ e * s < 2 ^ k * 2 ^ e * 2 ^ (s.log2 + 1) :=
          Nat.mul_lt_mul_of_pos_left Nat.lt_log2_self hpos
      _ = 2 ^ k * 2 ^ (s.log2 + 1 + e) := by rw [pow_add 2 (s.log2 + 1)]; ring

theorem roundQuotient_scaled (s e k : Nat) :
    roundQuotient (s * 2 ^ e * Nat.pow 2 k) (2 ^ k * Nat.pow 2 e) = s := by
  have hmul : s * 2 ^ e * Nat.pow 2 k = s * (2 ^ k * Nat.pow 2 e) := by
    rw [mul_assoc, mul_comm (2 ^ e)]
    rfl
  rw [hmul]
  exact roundQuotient_mul_self (Nat.mul_ne_zero (Nat.two_pow_pos k).ne' (Nat.two_pow_pos e).ne')

/-- The exponent of a canonical representation is the one that its binary exponent leads to. -/
theorem Canonical.exponent_eq {k : Nat} (h : Canonical s e) (hs : s ≠ 0) (hk : k = 1074) :
    ((s.log2 : Int) + e - k + 1022).toNat = e := by
  have hlt : s.log2 < 53 := (Nat.log2_lt hs).mpr h.1
  rcases h.2.1 with rfl | hle
  · omega
  · have hge : 52 ≤ s.log2 := (Nat.le_log2 hs).mpr hle
    omega

/-- **A ratio that is a number** is read as that number. -/
theorem ofRatio_eq_finite {k : Nat} (h : Canonical s e) (hk : k = 1074) (hden : den ≠ 0)
    (heq : num * 2 ^ k = s * 2 ^ e * den) : ofRatio n num den = .finite n s e h := by
  rw [ofRatio_congr hden (Nat.two_pow_pos k).ne' heq]
  by_cases hs : s = 0
  · subst hs
    obtain rfl : e = 0 := h.2.1.resolve_right (by decide)
    rw [ofRatio, zero_mul, if_pos (.inl rfl), zero]
  · have hzero : ¬ (s * 2 ^ e = 0 ∨ 2 ^ k = 0) := by simp [hs]
    rw [ofRatio, if_neg hzero, ratioLog_scaled hs, h.exponent_eq hs hk, ← hk]
    dsimp only
    rw [roundQuotient_scaled, if_pos h.1, pack, dif_pos h]

end Lockable.Binary64
