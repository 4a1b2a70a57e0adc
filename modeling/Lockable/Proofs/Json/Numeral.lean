import Mathlib.Data.List.Basic
import Mathlib.Data.List.TakeWhile
import Mathlib.Data.Nat.Digits.Defs
import Lockable.Json.Reader
import Lockable.Proofs.Number.Shortest

/-!
# Numerals

A `Numeral` is what the reader of numbers takes apart: a sign, digits, and perhaps a fraction and an
exponent. It is read back whatever follows, as long as that does not go on with the numeral
(`Json.Numeral.readNumber_append`).

The text of an integer is a numeral that stands for it (`Json.exists_numeral_int`), and so is the
text of a finite number (`Json.exists_numeral_float`): every layout of a decimal is a numeral that
stands for what the decimal reads as (`Json.Numeral.value_ofDecimal`).
-/

namespace Lockable.Json

variable {ds rest : List Char} {c : Char} {m : Nat}

/-! ### Digits -/

theorem digitsValue_eq (ds : List Char) : digitsValue ds = Nat.ofDigitChars 10 ds 0 := by
  rw [digitsValue, Nat.ofDigitChars_eq_foldl]
  simp only [mul_comm]
  rfl

theorem digitsValue_append (ds es : List Char) :
    digitsValue (ds ++ es) = digitsValue ds * 10 ^ es.length + digitsValue es := by
  rw [digitsValue_eq, digitsValue_eq, digitsValue_eq, Nat.ofDigitChars_append,
    Nat.ofDigitChars_eq_ofDigitChars_zero, mul_comm]

@[simp]
theorem digitsValue_toDigits (m : Nat) : digitsValue (Nat.toDigits 10 m) = m := by
  rw [digitsValue_eq, Nat.ofDigitChars_ten_toDigits]

@[simp]
theorem digitsValue_zeros (k : Nat) : digitsValue (List.replicate k '0') = 0 := by
  rw [digitsValue_eq, Nat.ofDigitChars_replicate_zero, mul_zero]

/-- Digits, and at least one. -/
structure IsDigits (ds : List Char) : Prop where
  ne_nil : ds ≠ []
  isDigit : ∀ c ∈ ds, c.isDigit = true

namespace IsDigits

theorem toDigits (m : Nat) : IsDigits (Nat.toDigits 10 m) where
  ne_nil := Nat.toDigits_ne_nil
  isDigit _ h := Nat.isDigit_of_mem_toDigits (by decide) (by decide) h

theorem zero : IsDigits ['0'] where
  ne_nil := List.cons_ne_nil _ _
  isDigit _ hc := List.mem_singleton.mp hc ▸ rfl

theorem isDigit_of_mem_zeros {k : Nat} (h : c ∈ List.replicate k '0') : c.isDigit = true := by
  rw [List.eq_of_mem_replicate h]
  decide

theorem zeros_append (h : IsDigits ds) (k : Nat) : IsDigits (List.replicate k '0' ++ ds) where
  ne_nil := List.append_ne_nil_of_right_ne_nil _ h.ne_nil
  isDigit c hc := (List.mem_append.mp hc).elim isDigit_of_mem_zeros (h.isDigit c)

theorem append_zeros (h : IsDigits ds) (k : Nat) : IsDigits (ds ++ List.replicate k '0') where
  ne_nil := List.append_ne_nil_of_left_ne_nil h.ne_nil _
  isDigit c hc := (List.mem_append.mp hc).elim (h.isDigit c) isDigit_of_mem_zeros

theorem take (h : IsDigits ds) {k : Nat} (hk : 0 < k) : IsDigits (ds.take k) where
  ne_nil := by simp [h.ne_nil, hk.ne']
  isDigit c hc := h.isDigit c (List.mem_of_mem_take hc)

theorem drop (h : IsDigits ds) {k : Nat} (hk : k < ds.length) : IsDigits (ds.drop k) where
  ne_nil := by simpa using hk
  isDigit c hc := h.isDigit c (List.mem_of_mem_drop hc)

end IsDigits

/-- The digits of a number that is not zero do not begin with zero. -/
theorem head?_toDigits_ne (hm : m ≠ 0) : (Nat.toDigits 10 m).head? ≠ some '0' := by
  induction m using Nat.strongRecOn with
  | ind m ih =>
    by_cases hlt : m < 10
    · rw [Nat.toDigits_of_lt_base hlt, List.head?_cons, ne_eq, Option.some_inj,
        Nat.digitChar_eq_zero]
      exact hm
    · rw [Nat.toDigits_of_base_le (by decide) (by omega),
        List.head?_append_of_ne_nil _ Nat.toDigits_ne_nil]
      exact ih (m / 10) (by omega) (by omega)

/-- Digits are taken up to what is no digit. -/
theorem takeDigits_append (hds : IsDigits ds) (hrest : ∀ c ∈ rest.head?, c.isDigit = false) :
    takeDigits (ds ++ rest) = (ds, rest) := by
  rw [takeDigits, List.takeWhile_append_of_pos hds.isDigit,
    List.dropWhile_append_of_pos hds.isDigit]
  cases rest with
  | nil => rw [List.takeWhile_nil, List.append_nil, List.dropWhile_nil]
  | cons c cs =>
    have hc : ¬ c.isDigit = true := by simp [hrest c rfl]
    rw [List.takeWhile_cons_of_neg hc, List.append_nil, List.dropWhile_cons_of_neg hc]

/-- Characters that are all past the control characters, looked through one by one. -/
theorem le_toNat_of_all (h : ds.all (32 ≤ ·.toNat) = true) : ∀ c ∈ ds, 32 ≤ c.toNat :=
  fun c hc => of_decide_eq_true (List.all_eq_true.mp h c hc)

theorem le_toNat_of_isDigit (h : c.isDigit = true) : 32 ≤ c.toNat := by
  have hle : '0'.toNat ≤ c.toNat := (Char.isDigit_iff_toNat.mp h).1
  exact le_trans (by decide) hle

/-! ### The parts of a numeral -/

/-- A numeral **ends** in front of this: it goes on neither with a digit nor with a point nor with
the mark of an exponent. -/
def EndsNumeral (rest : List Char) : Prop :=
  ∀ c ∈ rest.head?, c.isDigit = false ∧ c ≠ '.' ∧ c ≠ 'e' ∧ c ≠ 'E'

/-- A fraction with its point, if there is one. -/
def fractionChars : Option (List Char) → List Char
  | none => []
  | some ds => '.' :: ds

/-- An exponent with its mark, if there is one. -/
def exponentChars : Option Int → List Char
  | none => []
  | some e => 'e' :: Binary64.exponentText e

theorem takeFraction_append {fraction : Option (List Char)}
    (h : ∀ ds ∈ fraction, IsDigits ds) (hrest : ∀ c ∈ rest.head?, c.isDigit = false ∧ c ≠ '.') :
    takeFraction (fractionChars fraction ++ rest) = (fraction, rest) := by
  cases fraction with
  | none =>
    rw [fractionChars, List.nil_append, takeFraction]
    rintro after rfl
    exact (hrest '.' rfl).2 rfl
  | some ds =>
    rw [fractionChars, List.cons_append, takeFraction,
      takeDigits_append (h ds rfl) fun c hc => (hrest c hc).1]
    obtain ⟨d, ds, rfl⟩ := List.exists_cons_of_ne_nil (h ds rfl).ne_nil
    rfl

/-- An integer from its sign and its size. -/
theorem signed_natAbs (i : Int) :
    (if decide (i < 0) then -(i.natAbs : Int) else (i.natAbs : Int)) = i := by
  split <;> next h => simp only [decide_eq_true_eq] at h; omega

/-- The digits of an exponent are those of a natural number, perhaps after a zero. -/
theorem exists_exponentText (e : Int) :
    ∃ ds, IsDigits ds ∧ digitsValue ds = e.natAbs ∧
      Binary64.exponentText e = (if e < 0 then '-' else '+') :: ds := by
  obtain ⟨k, htext⟩ : ∃ k, Binary64.exponentText e =
      (if e < 0 then '-' else '+') :: (List.replicate k '0' ++ Nat.toDigits 10 e.natAbs) := by
    by_cases hshort : (Nat.toDigits 10 e.natAbs).length < 2
    · exact ⟨1, by rw [Binary64.exponentText, if_pos hshort]; rfl⟩
    · exact ⟨0, by rw [Binary64.exponentText, if_neg hshort]; rfl⟩
  refine ⟨_, (IsDigits.toDigits _).zeros_append k, ?_, htext⟩
  rw [digitsValue_append, digitsValue_zeros, digitsValue_toDigits, zero_mul, zero_add]

theorem takeExponent_signed (negative : Bool) (hds : IsDigits ds)
    (hrest : ∀ c ∈ rest.head?, c.isDigit = false) :
    takeExponent ('e' :: (if negative then '-' else '+') :: (ds ++ rest)) =
      (some (if negative then -(digitsValue ds : Int) else (digitsValue ds : Int)), rest) := by
  have htake := takeDigits_append hds hrest
  obtain ⟨d, ds, rfl⟩ := List.exists_cons_of_ne_nil hds.ne_nil
  cases negative with
  | true => rw [if_pos rfl, takeExponent, if_pos (.inl rfl), htake]
  | false => rw [if_neg Bool.false_ne_true, takeExponent, if_pos (.inl rfl), htake]

theorem takeExponent_append {exponent : Option Int} (hrest : EndsNumeral rest) :
    takeExponent (exponentChars exponent ++ rest) = (exponent, rest) := by
  cases exponent with
  | none =>
    rw [exponentChars, List.nil_append]
    cases rest with
    | nil => rfl
    | cons c cs =>
      obtain ⟨-, -, he, hE⟩ := hrest c rfl
      exact if_neg (not_or.mpr ⟨he, hE⟩)
  | some e =>
    obtain ⟨ds, hds, hvalue, htext⟩ := exists_exponentText e
    have hsigned := takeExponent_signed (decide (e < 0)) hds fun c hc => (hrest c hc).1
    rw [hvalue, signed_natAbs] at hsigned
    rw [exponentChars, List.cons_append, htext, List.cons_append]
    simpa using hsigned

/-! ### Numerals -/

/-- The parts of a numeral. -/
structure Numeral where
  negative : Bool
  whole : List Char
  fraction : Option (List Char) := none
  exponent : Option Int := none

namespace Numeral

/-- The text of a numeral. -/
def chars (x : Numeral) : List Char :=
  (if x.negative then ['-'] else []) ++ x.whole ++ fractionChars x.fraction ++
    exponentChars x.exponent

/-- The number that a numeral stands for: an integer if there is neither a fraction nor an
exponent. -/
def value (x : Numeral) : Json :=
  match x.fraction, x.exponent with
  | none, none =>
    .int (if x.negative then -(digitsValue x.whole : Int) else (digitsValue x.whole : Int))
  | fraction, exponent =>
    let places := fraction.getD []
    .float (Binary64.ofDecimal
      ⟨x.negative, digitsValue (x.whole ++ places), exponent.getD 0 - (places.length : Int)⟩)

/-- The numeral is **well-formed**: there are digits in front of the point, where a leading zero
stands alone, and after it; and those of an integer are not too many. -/
structure WellFormed (x : Numeral) : Prop where
  whole : IsDigits x.whole
  leading : x.whole.head? = some '0' → x.whole = ['0']
  fraction : ∀ ds ∈ x.fraction, IsDigits ds
  short : x.fraction = none → x.exponent = none → x.whole.length ≤ digitLimit

end Numeral

/-- A number after its sign, as the reader of numbers goes on. -/
def readUnsigned (negative : Bool) (body : List Char) : Option (Except Nat Json × List Char) :=
  let (whole, rest) :=
    match body with
    | '0' :: rest => (['0'], rest)
    | _ => takeDigits body
  if whole.isEmpty then none
  else
    let (fraction, rest) := takeFraction rest
    let (exponent, rest) := takeExponent rest
    match fraction, exponent with
    | none, none => some (readInteger negative whole, rest)
    | _, _ =>
      let places := fraction.getD []
      let d : Decimal :=
        ⟨negative, digitsValue (whole ++ places), exponent.getD 0 - (places.length : Int)⟩
      some (.ok (.float (Binary64.ofDecimal d)), rest)

theorem readNumber_neg (body : List Char) : readNumber ('-' :: body) = readUnsigned true body := by
  unfold readNumber readUnsigned
  rfl

theorem readNumber_of_ne (hc : c ≠ '-') (cs : List Char) :
    readNumber (c :: cs) = readUnsigned false (c :: cs) := by
  unfold readNumber
  split
  next hsign =>
    split at hsign
    · next heq =>
      cases heq
      exact absurd rfl hc
    · cases hsign
      rfl

namespace Numeral

variable {x : Numeral}

/-- The fraction and the exponent of a numeral with what follows. -/
def tail (x : Numeral) (rest : List Char) : List Char :=
  fractionChars x.fraction ++ (exponentChars x.exponent ++ rest)

/-- An exponent does not go on with the digits in front of it. -/
theorem head?_exponentChars (hrest : EndsNumeral rest) (exponent : Option Int) :
    ∀ c ∈ (exponentChars exponent ++ rest).head?, c.isDigit = false ∧ c ≠ '.' := by
  intro c hc
  cases exponent with
  | none => exact ⟨(hrest c hc).1, (hrest c hc).2.1⟩
  | some e =>
    obtain rfl : 'e' = c := by simpa [exponentChars] using hc
    decide

/-- What comes after the digits in front of the point is no digit. -/
theorem head?_tail (x : Numeral) (hrest : EndsNumeral rest) :
    ∀ c ∈ (x.tail rest).head?, c.isDigit = false := by
  intro c hc
  rw [tail] at hc
  cases hfraction : x.fraction with
  | none =>
    rw [hfraction] at hc
    exact (head?_exponentChars hrest _ c hc).1
  | some ds =>
    rw [hfraction] at hc
    obtain rfl : '.' = c := by simpa [fractionChars] using hc
    decide

/-- The digits in front of the point are found again. -/
theorem readUnsigned_append (hx : x.WellFormed) (hrest : EndsNumeral rest) :
    readUnsigned x.negative (x.whole ++ x.tail rest) = some (.ok x.value, rest) := by
  have hwhole := takeDigits_append hx.whole (x.head?_tail hrest)
  have hne : ¬ x.whole.isEmpty = true := by simp [hx.whole.ne_nil]
  unfold readUnsigned
  split
  next whole rest' hfound =>
    obtain ⟨rfl, rfl⟩ : x.whole = whole ∧ x.tail rest = rest' := by
      split at hfound
      · next after heq =>
        -- a leading zero stands alone
        have hzero : x.whole = ['0'] := hx.leading (by
          obtain ⟨c, cs, hcs⟩ := List.exists_cons_of_ne_nil hx.whole.ne_nil
          rw [hcs] at heq ⊢
          cases heq
          rfl)
        rw [hzero] at heq ⊢
        cases heq
        cases hfound
        exact ⟨rfl, rfl⟩
      · rw [hwhole] at hfound
        cases hfound
        exact ⟨rfl, rfl⟩
    rw [if_neg hne, tail, takeFraction_append hx.fraction (head?_exponentChars hrest _)]
    dsimp only
    rw [takeExponent_append hrest, value]
    have hshort := hx.short
    cases hfraction : x.fraction with
    | some ds => rfl
    | none =>
      cases hexponent : x.exponent with
      | some e => rfl
      | none =>
        dsimp only
        rw [readInteger, if_neg (not_lt.mpr (hshort hfraction hexponent))]

/-- **A numeral is read back**, whatever follows. -/
theorem readNumber_append (hx : x.WellFormed) (hrest : EndsNumeral rest) :
    readNumber (x.chars ++ rest) = some (.ok x.value, rest) := by
  have hread := readUnsigned_append hx hrest
  have hchars : x.chars ++ rest =
      (if x.negative then ['-'] else []) ++ (x.whole ++ x.tail rest) := by
    simp [chars, tail]
  rw [hchars]
  cases hsign : x.negative with
  | true =>
    rw [hsign] at hread
    exact (readNumber_neg _).trans hread
  | false =>
    rw [hsign] at hread
    obtain ⟨c, cs, hcs⟩ := List.exists_cons_of_ne_nil hx.whole.ne_nil
    have hc : c.isDigit = true := hx.whole.isDigit c (by simp [hcs])
    have hne : c ≠ '-' := by
      rintro rfl
      simp at hc
    rw [hcs] at hread ⊢
    exact (readNumber_of_ne hne _).trans hread

/-! ### Layouts of a decimal -/

/-- The numeral of a decimal in its layout. -/
def ofDecimal (d : Decimal) : Numeral :=
  let digits := d.digitText
  let point : Int := digits.length + d.exponent
  if d.digits = 0 then ⟨d.negative, ['0'], some ['0'], none⟩
  else if -4 < point ∧ point ≤ 16 then
    if point ≤ 0 then
      ⟨d.negative, ['0'], some (List.replicate (-point).toNat '0' ++ digits), none⟩
    else if digits.length ≤ point.toNat then
      ⟨d.negative, digits ++ List.replicate (point.toNat - digits.length) '0', some ['0'], none⟩
    else ⟨d.negative, digits.take point.toNat, some (digits.drop point.toNat), none⟩
  else
    ⟨d.negative, digits.take 1, if (digits.drop 1).isEmpty then none else some (digits.drop 1),
      some (point - 1)⟩

theorem chars_ofDecimal (d : Decimal) : (ofDecimal d).chars = Binary64.layout d := by
  rw [ofDecimal, Binary64.layout]
  split_ifs <;> simp_all [chars, fractionChars, exponentChars]

theorem wellFormed_ofDecimal (d : Decimal) : (ofDecimal d).WellFormed := by
  have hdigits : IsDigits d.digitText := .toDigits _
  have hpos : 0 < d.digitText.length := Nat.length_toDigits_pos
  have hzero : IsDigits ['0'] := .zero
  rw [ofDecimal]
  split
  · exact ⟨hzero, fun _ => rfl, by simpa using hzero, by simp⟩
  · next hne =>
    have hlead : d.digitText.head? ≠ some '0' := head?_toDigits_ne hne
    split_ifs
    · exact ⟨hzero, fun _ => rfl, by simpa using hdigits.zeros_append _, by simp⟩
    · refine ⟨hdigits.append_zeros _, fun h => ?_, by simpa using hzero, by simp⟩
      rw [List.head?_append_of_ne_nil _ hdigits.ne_nil] at h
      exact absurd h hlead
    · refine ⟨hdigits.take (by omega), fun h => ?_, by simpa using hdigits.drop (by omega),
        by simp⟩
      rw [List.head?_take, if_neg (by omega)] at h
      exact absurd h hlead
    · refine ⟨hdigits.take (by omega), fun h => ?_, by simp, by simp⟩
      rw [List.head?_take, if_neg (by omega)] at h
      exact absurd h hlead
    · next hfraction =>
      refine ⟨hdigits.take (by omega), fun h => ?_, ?_, by simp⟩
      · rw [List.head?_take, if_neg (by omega)] at h
        exact absurd h hlead
      · rw [List.isEmpty_iff, List.drop_eq_nil_iff, not_le] at hfraction
        simpa using hdigits.drop hfraction

/-- A numeral with a fraction or an exponent stands for the decimal of its digits, perhaps with
zeros at the end. -/
theorem value_eq_float (n : Bool) {whole : List Char} {fraction : Option (List Char)}
    {exponent : Option Int} (hpoint : fraction ≠ none ∨ exponent ≠ none) {m k : Nat} {e : Int}
    (hdigits : digitsValue (whole ++ fraction.getD []) = m * 10 ^ k)
    (hexponent : exponent.getD 0 - ((fraction.getD []).length : Int) + k = e) :
    value ⟨n, whole, fraction, exponent⟩ = .float (Binary64.ofDecimal ⟨n, m, e⟩) := by
  rw [← hexponent, ← Binary64.ofDecimal_mul_pow, ← hdigits, value]
  split
  · next h h' => exact absurd hpoint (not_or.mpr ⟨not_not.mpr h, not_not.mpr h'⟩)
  · rfl

theorem value_ofDecimal (d : Decimal) :
    (ofDecimal d).value = .float (Binary64.ofDecimal d) := by
  have hvalue : digitsValue d.digitText = d.digits := digitsValue_toDigits _
  have hpos : 0 < d.digitText.length := Nat.length_toDigits_pos
  have hzero : digitsValue ['0'] = 0 := rfl
  rw [ofDecimal]
  split
  · next hdigits =>
    have hfloat : value ⟨d.negative, ['0'], some ['0'], none⟩ =
        .float (Binary64.ofDecimal ⟨d.negative, 0, -1⟩) :=
      value_eq_float d.negative (k := 0) (.inl (by simp)) rfl rfl
    rw [hfloat, Binary64.ofDecimal_of_digits_eq_zero hdigits,
      Binary64.ofDecimal_of_digits_eq_zero rfl]
  · split_ifs
    · refine value_eq_float d.negative (k := 0) (.inl (by simp)) ?_ ?_
      · rw [Option.getD_some, digitsValue_append, digitsValue_append, hzero, digitsValue_zeros,
          hvalue]
        simp
      · simp
        omega
    · have hpow : d.digits * 10 ^ (d.exponent.toNat + 1) =
          d.digits * 10 ^ d.exponent.toNat * 10 := by
        rw [pow_succ, mul_assoc]
      have hzeros : (d.digitText.length + d.exponent).toNat - d.digitText.length =
        d.exponent.toNat := by omega
      refine value_eq_float d.negative (k := d.exponent.toNat + 1) (.inl (by simp)) ?_ ?_
      · rw [Option.getD_some, digitsValue_append, digitsValue_append, hzero, digitsValue_zeros,
          hvalue, List.length_replicate, hzeros, hpow]
        rfl
      · simp
        omega
    · refine value_eq_float d.negative (k := 0) (.inl (by simp)) ?_ ?_
      · rw [Option.getD_some, List.take_append_drop, hvalue, pow_zero, mul_one]
      · simp
        omega
    · next hfraction =>
      rw [List.isEmpty_iff, List.drop_eq_nil_iff] at hfraction
      refine value_eq_float d.negative (k := 0) (.inr (by simp)) ?_ ?_
      · rw [Option.getD_none, List.append_nil, List.take_of_length_le hfraction, hvalue, pow_zero,
          mul_one]
      · simp
        omega
    · refine value_eq_float d.negative (k := 0) (.inr (by simp)) ?_ ?_
      · rw [Option.getD_some, List.take_append_drop, hvalue, pow_zero, mul_one]
      · simp
        omega

/-! ### Texts of integers -/

/-- The numeral of an integer. -/
def ofInt (i : Int) : Numeral := ⟨decide (i < 0), Nat.toDigits 10 i.natAbs, none, none⟩

theorem chars_ofInt (i : Int) : (ofInt i).chars = (intText i).toList := by
  rw [intText, String.toList_ofList, ofInt]
  by_cases h : i < 0 <;> simp [chars, fractionChars, exponentChars, h]

theorem wellFormed_ofInt {i : Int} (hi : Showable i) : (ofInt i).WellFormed := by
  -- for any number of digits, so that the power of the limit is never computed
  have hlength (k : Nat) (hpos : 0 < k) (hk : i.natAbs < Nat.pow 10 k) :
      (Nat.toDigits 10 i.natAbs).length ≤ k := Nat.toDigits_length 10 i.natAbs k hpos hk
  refine ⟨.toDigits _, fun h => ?_, by rintro ds ⟨⟩,
    fun _ _ => hlength digitLimit (by decide) hi⟩
  have hzero : i.natAbs = 0 := not_not.mp fun hne => head?_toDigits_ne hne h
  rw [ofInt, hzero, Nat.toDigits_zero]

theorem value_ofInt (i : Int) : (ofInt i).value = .int i := by
  rw [ofInt, value, digitsValue_toDigits]
  exact congrArg Json.int (signed_natAbs i)

/-! ### The characters of a numeral -/

/-- A numeral begins with a digit, perhaps after a sign. -/
theorem exists_chars (hx : x.WellFormed) : ∃ c cs, c.isDigit = true ∧
    (x.chars = c :: cs ∨ x.chars = '-' :: c :: cs) := by
  obtain ⟨c, cs, hcs⟩ := List.exists_cons_of_ne_nil hx.whole.ne_nil
  refine ⟨c, cs ++ x.tail [], hx.whole.isDigit c (by simp [hcs]), ?_⟩
  cases hsign : x.negative with
  | true => exact .inr (by simp [chars, tail, hsign, hcs])
  | false => exact .inl (by simp [chars, tail, hsign, hcs])

/-- No character of a numeral is a control character. -/
theorem le_toNat (hx : x.WellFormed) : ∀ c ∈ x.chars, 32 ≤ c.toNat := by
  have hexponent : ∀ c ∈ exponentChars x.exponent, 32 ≤ c.toNat := by
    cases x.exponent with
    | none => exact List.forall_mem_nil _
    | some e =>
      obtain ⟨ds, hds, -, htext⟩ := exists_exponentText e
      rw [exponentChars, htext, List.forall_mem_cons, List.forall_mem_cons]
      refine ⟨by decide, ?_, fun c hc => le_toNat_of_isDigit (hds.isDigit c hc)⟩
      split <;> decide
  have hfraction : ∀ c ∈ fractionChars x.fraction, 32 ≤ c.toNat := by
    cases hpart : x.fraction with
    | none => exact List.forall_mem_nil _
    | some ds =>
      rw [fractionChars, List.forall_mem_cons]
      exact ⟨by decide, fun c hc => le_toNat_of_isDigit ((hx.fraction ds hpart).isDigit c hc)⟩
  have hsign : ∀ c ∈ if x.negative then ['-'] else [], 32 ≤ c.toNat := by
    split <;> exact le_toNat_of_all (by decide)
  intro c hc
  rw [chars, List.mem_append, List.mem_append, List.mem_append] at hc
  obtain ((hc | hc) | hc) | hc := hc
  · exact hsign c hc
  · exact le_toNat_of_isDigit (hx.whole.isDigit c hc)
  · exact hfraction c hc
  · exact hexponent c hc

end Numeral

/-- **The text of an integer** that is not too long is a numeral that stands for it. -/
theorem exists_numeral_int {i : Int} (hi : Showable i) :
    ∃ x : Numeral, x.WellFormed ∧ x.chars = (intText i).toList ∧ x.value = .int i :=
  ⟨.ofInt i, Numeral.wellFormed_ofInt hi, Numeral.chars_ofInt i, Numeral.value_ofInt i⟩

/-- **The text of a finite number** is a numeral that stands for it. -/
theorem exists_numeral_float {f : Binary64} (hf : f.isFinite = true) :
    ∃ x : Numeral, x.WellFormed ∧ x.chars = writeFloat f ∧ x.value = .float f := by
  cases f with
  | nan => cases hf
  | infinite n => cases hf
  | finite n s e h =>
    refine ⟨.ofDecimal (Binary64.shortest n s e h), Numeral.wellFormed_ofDecimal _, ?_, ?_⟩
    · exact (Numeral.chars_ofDecimal _).trans String.toList_ofList.symm
    · rw [Numeral.value_ofDecimal, Binary64.ofDecimal_shortest]

end Lockable.Json
