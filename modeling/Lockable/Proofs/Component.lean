import Mathlib.Data.List.Basic
import Lockable.Proofs.Address

/-!
# Components of an address

A text as a component of an address, seen from both sides. Written **character by character**, the
characters of `Percent.unescaped` stand for themselves and every other one becomes the escapes of
its octets; written **octet by octet** (`Percent.encodeOctet`), as a writer does that knows octets
only, it comes to the same, since no octet of a longer sequence is the code of a character that is
left alone (`Utf8.le_toNat_of_mem_encodeChar`). The octets are those of the standard encoding
(`Utf8.encode_eq_toByteArray`), and reading takes the octets back out and then the text.
-/

namespace Lockable

/-! ### Octets -/

namespace Utf8

/-- A character has the octets that the standard encoding gives it. -/
theorem encodeChar_eq (c : Char) : encodeChar c = String.utf8EncodeChar c := by
  have hvalid : c.toNat < 0xD800 ∨ 0xDFFF < c.toNat ∧ c.toNat < 0x110000 := c.valid
  have hval : c.val.toNat = c.toNat := rfl
  rw [encodeChar, String.utf8EncodeChar, hval]
  generalize c.toNat = n at hvalid
  -- one case for each number of octets; the marks are added on the other side
  by_cases hone : n < 0x80
  · rw [if_pos hone, if_pos (by omega)]
  by_cases htwo : n < 0x800
  · rw [if_neg hone, if_pos htwo, if_neg (by omega), if_pos (by omega), tailOctet,
      Nat.mod_eq_of_lt (by omega : n / 64 < 32), Nat.add_comm 0xC0, Nat.add_comm 0x80]
  by_cases hthree : n < 0x10000
  · rw [if_neg hone, if_neg htwo, if_pos hthree, if_neg (by omega), if_neg (by omega),
      if_pos (by omega), tailOctet, tailOctet, Nat.mod_eq_of_lt (by omega : n / 4096 < 16),
      Nat.add_comm 0xE0, Nat.add_comm 0x80, Nat.add_comm 0x80]
  · rw [if_neg hone, if_neg htwo, if_neg hthree, if_neg (by omega), if_neg (by omega),
      if_neg (by omega), tailOctet, tailOctet, tailOctet,
      Nat.mod_eq_of_lt (by omega : n / 262144 < 8), Nat.add_comm 0xF0, Nat.add_comm 0x80,
      Nat.add_comm 0x80, Nat.add_comm 0x80]

/-- A text has the octets of the standard encoding. -/
theorem encode_eq_toByteArray (s : String) : encode s.toList = s.toByteArray.data.toList := by
  have hdata : s.toByteArray.data = (s.toList.flatMap String.utf8EncodeChar).toArray := by
    rw [← String.utf8Encode_toList, List.utf8Encode, List.data_toByteArray]
  rw [hdata, encode]
  exact congrArg (List.flatMap · s.toList) (funext encodeChar_eq)

/-- **What was written is read back**, by the reader that refuses everything else. -/
theorem decode?_encode (cs : List Char) : decode? (encode cs) = some cs := by
  induction cs with
  | nil => rw [encode, List.flatMap_nil, decode?]
  | cons c rest ih =>
    obtain ⟨b, tails, hoctets, hread⟩ := decodeOne_encodeChar c (encode rest)
    have hencode : encode (c :: rest) = b :: (tails ++ encode rest) := by
      rw [encode, List.flatMap_cons, hoctets]
      rfl
    rw [hencode, decode?, hread]
    dsimp only
    rw [ih]
    rfl

/-- No octet of a character outside ASCII is one of ASCII. -/
theorem le_toNat_of_mem_encodeChar {c : Char} (h : 0x80 ≤ c.toNat) {b : UInt8}
    (hb : b ∈ encodeChar c) : 0x80 ≤ b.toNat := by
  have hvalid : c.toNat < 0xD800 ∨ 0xDFFF < c.toNat ∧ c.toNat < 0x110000 := c.valid
  have htail (n : Nat) : 0x80 ≤ (tailOctet n).toNat := by
    rw [toNat_tailOctet]
    omega
  have hfirst {n : Nat} (hlow : 0x80 ≤ n) (hhigh : n < 256) : 0x80 ≤ (UInt8.ofNat n).toNat := by
    rwa [toNat_ofNat_of_lt hhigh]
  rw [encodeChar, if_neg (by omega)] at hb
  split at hb
  · simp only [List.mem_cons, List.not_mem_nil, or_false] at hb
    rcases hb with rfl | rfl
    · exact hfirst (by omega) (by omega)
    · exact htail _
  · split at hb
    · simp only [List.mem_cons, List.not_mem_nil, or_false] at hb
      rcases hb with rfl | rfl | rfl
      · exact hfirst (by omega) (by omega)
      · exact htail _
      · exact htail _
    · simp only [List.mem_cons, List.not_mem_nil, or_false] at hb
      rcases hb with rfl | rfl | rfl | rfl
      · exact hfirst (by omega) (by omega)
      · exact htail _
      · exact htail _
      · exact htail _

end Utf8

/-! ### Characters -/

namespace Percent

variable {c d : Char}

/-- The characters that a component shows as they are, one by one. -/
def unescaped : String :=
  "ABCDEFGHIJKLMNOPQRSTUVWXYZabcdefghijklmnopqrstuvwxyz0123456789-_.!~*'()"

/-- The hexadecimal digits in upper case. -/
def upperDigits : List Char := "0123456789ABCDEF".toList

/-- An octet as a percent sign and two of these digits. -/
def upperEscape (b : UInt8) : List Char :=
  ['%', upperDigits.getD (b.toNat / 16) '0', upperDigits.getD (b.toNat % 16) '0']

/-- One octet of a text in a component: it stays if it is the code of a character that is shown as
it is. -/
def encodeOctet (b : UInt8) : List Char :=
  if Char.ofNat b.toNat ∈ unescaped.toList then [Char.ofNat b.toNat] else upperEscape b

theorem isComponentSafe_iff : isComponentSafe c = true ↔ c ∈ unescaped.toList := by
  have hall : ∀ n : Fin 128,
      isComponentSafe (Char.ofNat n) = true ↔ Char.ofNat n ∈ unescaped.toList := by
    decide +kernel
  by_cases hc : c.toNat < 128
  · have hthis := hall ⟨c.toNat, hc⟩
    rwa [Char.ofNat_toNat] at hthis
  · have hlisted : unescaped.toList.all (·.toNat < 128) = true := by decide +kernel
    refine iff_of_false (fun h => hc ?_) fun h =>
      hc (of_decide_eq_true (List.all_eq_true.mp hlisted c h))
    have hbounds := toNat_bounds_of_isWritten (c := c) (by simp [isWritten, h])
    omega

theorem escape_eq (b : UInt8) : escape b = upperEscape b := by
  have hall : ∀ n : Fin 16, hexDigit n = upperDigits.getD n '0' := by decide
  have hb : b.toNat < 256 := b.toNat_lt
  rw [escape, upperEscape, ← hall ⟨b.toNat / 16, by omega⟩, ← hall ⟨b.toNat % 16, by omega⟩]

/-- Characters of ASCII have their code as their one octet. -/
theorem encodeChar_of_lt (h : c.toNat < 0x80) : Utf8.encodeChar c = [UInt8.ofNat c.toNat] :=
  if_pos h

/-- **Character by character or octet by octet** is the same. -/
theorem flatMap_encodeOctet (c : Char) : (Utf8.encodeChar c).flatMap encodeOctet =
    if isComponentSafe c then [c] else escapeChar c := by
  by_cases hc : c.toNat < 0x80
  · have hcode : Char.ofNat (UInt8.ofNat c.toNat).toNat = c := by
      rw [Utf8.toNat_ofNat_of_lt (by omega), Char.ofNat_toNat]
    rw [escapeChar, encodeChar_of_lt hc, List.flatMap_singleton, List.flatMap_singleton,
      encodeOctet, hcode, escape_eq]
    simp only [isComponentSafe_iff]
  · have hunsafe : ¬isComponentSafe c = true := fun h => by
      have hbounds := toNat_bounds_of_isWritten (c := c) (by simp [isWritten, h])
      omega
    rw [if_neg hunsafe, escapeChar]
    refine List.flatMap_congr fun b hb => ?_
    -- an octet of such a character is the code of none that is left alone
    have hoctet := Utf8.le_toNat_of_mem_encodeChar (Nat.le_of_not_lt hc) hb
    have hlisted : ∀ n : Fin 256, 0x80 ≤ n.val → Char.ofNat n ∉ unescaped.toList := by
      decide +kernel
    rw [encodeOctet, if_neg (hlisted ⟨b.toNat, b.toNat_lt⟩ hoctet), escape_eq]

theorem toList_encodeComponent (s : String) :
    (encodeComponent s).toList = s.toList.flatMap fun c =>
      if isComponentSafe c then [c] else escapeChar c := by
  rw [encodeComponent, String.toList_ofList]
  rfl

/-- A component consists of characters that are left alone, and of escapes. -/
theorem of_mem_encodeComponent {s : String} (h : d ∈ (encodeComponent s).toList) :
    isComponentSafe d = true ∨ d = '%' := by
  rw [toList_encodeComponent] at h
  obtain ⟨c, -, hd⟩ := List.mem_flatMap.mp h
  split at hd
  · next hc => exact .inl (List.mem_singleton.mp hd ▸ hc)
  · obtain ⟨b, -, hd⟩ := List.mem_flatMap.mp hd
    have hb : b.toNat < 256 := b.toNat_lt
    simp only [escape, List.mem_cons, List.not_mem_nil, or_false] at hd
    rcases hd with rfl | rfl | rfl
    · exact .inr rfl
    · exact .inl (by simp [isComponentSafe, isUnreserved_hexDigit (n := b.toNat / 16) (by omega)])
    · exact .inl (by simp [isComponentSafe, isUnreserved_hexDigit (n := b.toNat % 16) (by omega)])

/-- A component stands for the octets of its text. -/
theorem octets_encodeComponent (s : String) :
    octets (encodeComponent s).toList = Utf8.encode s.toList := by
  have hplus : (encodeComponent s).toList.map unplus = (encodeComponent s).toList := by
    refine (List.map_congr_left fun d hd => if_neg ?_).trans (List.map_id _)
    rintro rfl
    exact absurd (of_mem_encodeComponent hd) (by decide)
  rw [← hplus, toList_encodeComponent, isEncoding_component.octets_flatMap]

/-- **Components are read back.** Take any text.

* Of its characters, those of `unescaped` stand for themselves, and every other one becomes the
  escapes, in upper case, of its octets; and each octet is written by itself.
* The escapes stand for the octets, and the octets are read back as the text.
* One text after another is written as the one component after the other.
* None of the marks by which the parts of an address and its fields are told apart is written. -/
theorem components_read_back (s t : String) :
    ((encodeComponent s).toList = s.toList.flatMap fun c =>
      if c ∈ unescaped.toList then [c] else (String.utf8EncodeChar c).flatMap upperEscape) ∧
    (encodeComponent s).toList = s.toByteArray.data.toList.flatMap encodeOctet ∧
    octets (encodeComponent s).toList = s.toByteArray.data.toList ∧
    Utf8.decode? (octets (encodeComponent s).toList) = some s.toList ∧
    encodeComponent (s ++ t) = encodeComponent s ++ encodeComponent t ∧
    (encodeComponent s).toList.Disjoint "&=?#/+ ".toList := by
  refine ⟨?_, ?_, ?_, ?_, ?_, ?_⟩
  · rw [toList_encodeComponent]
    refine List.flatMap_congr fun c _ => ?_
    simp only [isComponentSafe_iff, escapeChar, Utf8.encodeChar_eq, funext escape_eq]
  · rw [toList_encodeComponent, ← Utf8.encode_eq_toByteArray, Utf8.encode, List.flatMap_assoc]
    exact List.flatMap_congr fun c _ => (flatMap_encodeOctet c).symm
  · rw [octets_encodeComponent, Utf8.encode_eq_toByteArray]
  · rw [octets_encodeComponent, Utf8.decode?_encode]
  · rw [← String.toList_inj, String.toList_append, toList_encodeComponent, toList_encodeComponent,
      toList_encodeComponent, String.toList_append, List.flatMap_append]
  · intro d hd hmark
    have hmarks : "&=?#/+ ".toList.all (fun m => !(isComponentSafe m || m == '%')) = true := by
      decide +kernel
    have hother := List.all_eq_true.mp hmarks d hmark
    rcases of_mem_encodeComponent hd with hsafe | rfl
    · simp [hsafe] at hother
    · simp at hother

end Percent

end Lockable
