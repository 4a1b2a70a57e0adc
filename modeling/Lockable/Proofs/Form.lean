import Mathlib.Logic.Basic
import Lockable.Text.Blank
import Lockable.Text.Percent

/-!
# Forms are read back

What a form-encoded text stands for, and that it stands for what it was written for. A field is
written by two encoders, one for a component of an address and one for a form; both are
**encodings** (`Percent.IsEncoding`), so one reader reads both back on every text
(`Percent.readForm_intercalate`). It comes down to three facts:

* the octets of a text are read back as the text (`Utf8.decode_encode`);
* the escapes of octets stand for these octets, and no escape is mistaken for a space;
* what is encoded has no mark in it by which fields are told apart.
-/

namespace Lockable

/-! ### Pieces -/

namespace Text

variable {separator : Char → Bool}

/-- There is always a first piece; another character is added to it, or ends it before it begins. -/
theorem exists_splitOn_cons (separator : Char → Bool) (c : Char) (cs : List Char) :
    ∃ piece pieces, splitOn separator cs = piece :: pieces ∧
      splitOn separator (c :: cs) =
        if separator c then [] :: piece :: pieces else (c :: piece) :: pieces := by
  have hcons (c : Char) (cs : List Char) :
      splitOn separator (c :: cs) = splitStep separator c (splitOn separator cs) := rfl
  have hne (cs : List Char) : splitOn separator cs ≠ [] := by
    cases cs with
    | nil => exact List.cons_ne_nil _ _
    | cons c cs =>
      rw [hcons]
      generalize splitOn separator cs = pieces
      cases pieces <;> simp only [splitStep] <;> split <;> exact List.cons_ne_nil _ _
  rcases hpieces : splitOn separator cs with _ | ⟨piece, pieces⟩
  · exact absurd hpieces (hne cs)
  · exact ⟨piece, pieces, rfl, by rw [hcons, hpieces]; rfl⟩

/-- A text that ends in a separator is cut into its pieces, and the last one is ended by that. -/
theorem splitOn_append_cons (cs : List Char) {s : Char} (hs : separator s = true)
    (rest : List Char) :
    splitOn separator (cs ++ s :: rest) = splitOn separator cs ++ splitOn separator rest := by
  induction cs with
  | nil =>
    obtain ⟨piece, pieces, hrest, hcons⟩ := exists_splitOn_cons separator s rest
    rw [List.nil_append, hcons, if_pos hs, ← hrest]
    rfl
  | cons c cs ih =>
    obtain ⟨piece, pieces, hcs, hcons⟩ := exists_splitOn_cons separator c cs
    obtain ⟨piece', pieces', hrest, hcons'⟩ :=
      exists_splitOn_cons separator c (cs ++ s :: rest)
    rw [ih, hcs, List.cons_append, List.cons.injEq] at hrest
    obtain ⟨rfl, rfl⟩ := hrest
    rw [List.cons_append, hcons', hcons]
    split <;> rfl

/-- There is no separator in a piece. -/
theorem separator_eq_false_of_mem_splitOn {cs piece : List Char}
    (h : piece ∈ splitOn separator cs) : ∀ c ∈ piece, separator c = false := by
  induction cs generalizing piece with
  | nil =>
    rw [List.mem_singleton.mp h]
    exact fun c hc => absurd hc List.not_mem_nil
  | cons c cs ih =>
    obtain ⟨first, pieces, hcs, hcons⟩ := exists_splitOn_cons separator c cs
    rw [hcs] at ih
    rw [hcons] at h
    split at h
    · rcases List.mem_cons.mp h with rfl | h
      · exact fun c hc => absurd hc List.not_mem_nil
      · exact ih h
    · next hc =>
      rcases List.mem_cons.mp h with rfl | h
      · exact List.forall_mem_cons.mpr ⟨Bool.not_eq_true _ ▸ hc, ih List.mem_cons_self⟩
      · exact ih (List.mem_cons_of_mem _ h)

/-- What has no separator is added to the first piece. -/
theorem splitOn_append_of_none {word cs piece : List Char} {pieces : List (List Char)}
    (hword : ∀ c ∈ word, separator c = false) (hcs : splitOn separator cs = piece :: pieces) :
    splitOn separator (word ++ cs) = (word ++ piece) :: pieces := by
  induction word with
  | nil => exact hcs
  | cons c word ih =>
    obtain ⟨hc, hrest⟩ := List.forall_mem_cons.mp hword
    obtain ⟨first, others, hsplit, hcons⟩ := exists_splitOn_cons separator c (word ++ cs)
    rw [ih hrest, List.cons.injEq] at hsplit
    obtain ⟨rfl, rfl⟩ := hsplit
    rw [List.cons_append, hcons, hc, if_neg Bool.false_ne_true]
    rfl

/-- A text without a separator is one piece. -/
theorem splitOn_of_none {cs : List Char} (h : ∀ c ∈ cs, separator c = false) :
    splitOn separator cs = [cs] := by
  have hsplit := splitOn_append_of_none h (show splitOn separator [] = [[]] from rfl)
  rwa [List.append_nil] at hsplit

/-- Writing every character anew is writing every piece anew, if separators stay and none comes in.
-/
theorem splitOn_flatMap {write : Char → List Char}
    (hstays : ∀ c, separator c = true → write c = [c])
    (hnew : ∀ c, separator c = false → ∀ d ∈ write c, separator d = false) (cs : List Char) :
    splitOn separator (cs.flatMap write) = (splitOn separator cs).map (List.flatMap write) := by
  induction cs with
  | nil => rfl
  | cons c cs ih =>
    obtain ⟨piece, pieces, hcs, hcons⟩ := exists_splitOn_cons separator c cs
    rw [hcs, List.map_cons] at ih
    rw [List.flatMap_cons, hcons]
    split
    · next hc =>
      rw [hstays c hc, ← List.nil_append [c], List.append_assoc, List.singleton_append,
        splitOn_append_cons [] hc, ih]
      rfl
    · next hc => exact splitOn_append_of_none (hnew c (Bool.not_eq_true _ ▸ hc)) ih

/-- Pieces without a separator, put together with one between them, are cut apart again. -/
theorem splitOn_intercalate {s : Char} (hs : separator s = true) {piece : List Char}
    {pieces : List (List Char)} (h : ∀ p ∈ piece :: pieces, ∀ c ∈ p, separator c = false) :
    splitOn separator ([s].intercalate (piece :: pieces)) = piece :: pieces := by
  induction pieces generalizing piece with
  | nil =>
    rw [List.intercalate_singleton]
    exact splitOn_of_none (h piece List.mem_cons_self)
  | cons next pieces ih =>
    obtain ⟨hpiece, hrest⟩ := List.forall_mem_cons.mp h
    rw [List.intercalate_cons_cons, List.append_assoc, List.singleton_append,
      splitOn_append_cons _ hs, splitOn_of_none hpiece, ih hrest]
    rfl

end Text

/-! ### Octets -/

namespace Utf8

theorem toNat_tailOctet (n : Nat) : (tailOctet n).toNat = 0x80 + n % 64 := by
  rw [tailOctet, UInt8.toNat_ofNat']
  omega

/-- A tail in range adds its six bits to the code. -/
theorem readTails_tailOctet {low high n : Nat} (hlow : low ≤ 0x80 + n % 64)
    (hhigh : 0x80 + n % 64 ≤ high) (k code : Nat) (rest : List UInt8) :
    readTails (k + 1) low high code (tailOctet n :: rest) =
      readTails k 0x80 0xBF (code * 64 + n % 64) rest := by
  rw [readTails, toNat_tailOctet, if_pos ⟨hlow, hhigh⟩]
  congr 2
  omega

/-- The first octet of two announces a tail. -/
theorem lead_two {n : Nat} (hlow : 0x80 ≤ n) (hhigh : n < 0x800) :
    lead (0xC0 + n / 64) = some ⟨n / 64, 1, 0x80, 0xBF⟩ := by
  rw [lead, if_neg (by omega), if_neg (by omega), if_pos (by omega), Nat.add_sub_cancel_left]

/-- The first octet of three announces two tails, the next of which is in range if the code is that
of a character. -/
theorem lead_three {n : Nat} (hlow : 0x800 ≤ n) (hhigh : n < 0x10000)
    (hvalid : n < 0xD800 ∨ 0xDFFF < n) :
    ∃ low high, lead (0xE0 + n / 4096) = some ⟨n / 4096, 2, low, high⟩ ∧
      low ≤ 0x80 + n / 64 % 64 ∧ 0x80 + n / 64 % 64 ≤ high := by
  rw [lead, if_neg (by omega), if_neg (by omega), if_neg (by omega)]
  -- the range is narrower where the code would be too small for three octets, or a surrogate
  by_cases hfirst : n / 4096 = 0
  · refine ⟨0xA0, 0xBF, ?_, by omega, by omega⟩
    rw [if_pos (by omega), hfirst]
  · rw [if_neg (by omega)]
    by_cases hsurrogates : n / 4096 = 13
    · refine ⟨0x80, 0x9F, ?_, by omega, by omega⟩
      rw [if_pos (by omega), hsurrogates]
    · refine ⟨0x80, 0xBF, ?_, by omega, by omega⟩
      rw [if_neg (by omega), if_pos (by omega), Nat.add_sub_cancel_left]

/-- The first octet of four announces three tails, the next of which is in range if the code is that
of a character. -/
theorem lead_four {n : Nat} (hlow : 0x10000 ≤ n) (hhigh : n < 0x110000) :
    ∃ low high, lead (0xF0 + n / 262144) = some ⟨n / 262144, 3, low, high⟩ ∧
      low ≤ 0x80 + n / 4096 % 64 ∧ 0x80 + n / 4096 % 64 ≤ high := by
  rw [lead, if_neg (by omega), if_neg (by omega), if_neg (by omega), if_neg (by omega),
    if_neg (by omega), if_neg (by omega)]
  -- here it is narrower where the code would be too small, or beyond the last character
  by_cases hfirst : n / 262144 = 0
  · refine ⟨0x90, 0xBF, ?_, by omega, by omega⟩
    rw [if_pos (by omega), hfirst]
  · rw [if_neg (by omega)]
    by_cases hlast : n / 262144 = 4
    · refine ⟨0x80, 0x8F, ?_, by omega, by omega⟩
      rw [if_neg (by omega), if_pos (by omega), hlast]
    · refine ⟨0x80, 0xBF, ?_, by omega, by omega⟩
      rw [if_pos (by omega), Nat.add_sub_cancel_left]

/-- A first octet below 256 is the number that it was made of. -/
theorem toNat_ofNat_of_lt {n : Nat} (h : n < 256) : (UInt8.ofNat n).toNat = n := by
  rw [UInt8.toNat_ofNat', Nat.mod_eq_of_lt h]

/-- The octets of a character are read as the character. -/
theorem decodeOne_encodeChar (c : Char) (rest : List UInt8) :
    ∃ b tails, encodeChar c = b :: tails ∧ decodeOne b (tails ++ rest) = (some c, rest) := by
  have hvalid : c.toNat < 0xD800 ∨ 0xDFFF < c.toNat ∧ c.toNat < 0x110000 := c.valid
  have hchar {code : Nat} (h : code = c.toNat) :
      (some (Char.ofNat code), rest) = (some c, rest) := by
    rw [h, Char.ofNat_toNat]
  generalize hn : c.toNat = n at hvalid hchar
  rw [encodeChar, hn]
  -- one case for each number of octets, as they are written
  by_cases hone : n < 0x80
  · refine ⟨_, _, if_pos hone, ?_⟩
    rw [decodeOne, toNat_ofNat_of_lt (by omega), lead, if_pos hone]
    exact hchar rfl
  by_cases htwo : n < 0x800
  · refine ⟨_, _, (if_neg hone).trans (if_pos htwo), ?_⟩
    rw [decodeOne, toNat_ofNat_of_lt (by omega), lead_two (by omega) htwo]
    dsimp only [List.cons_append]
    rw [readTails_tailOctet (by omega) (by omega)]
    exact hchar (by omega)
  by_cases hthree : n < 0x10000
  · obtain ⟨low, high, hlead, hlow, hhigh⟩ := lead_three (by omega) hthree (by omega)
    refine ⟨_, _, ((if_neg hone).trans (if_neg htwo)).trans (if_pos hthree), ?_⟩
    rw [decodeOne, toNat_ofNat_of_lt (by omega), hlead]
    dsimp only [List.cons_append]
    rw [readTails_tailOctet hlow hhigh, readTails_tailOctet (by omega) (by omega)]
    exact hchar (by omega)
  · obtain ⟨low, high, hlead, hlow, hhigh⟩ := lead_four (n := n) (by omega) (by omega)
    refine ⟨_, _, ((if_neg hone).trans (if_neg htwo)).trans (if_neg hthree), ?_⟩
    rw [decodeOne, toNat_ofNat_of_lt (by omega), hlead]
    dsimp only [List.cons_append]
    rw [readTails_tailOctet hlow hhigh, readTails_tailOctet (by omega) (by omega),
      readTails_tailOctet (by omega) (by omega)]
    exact hchar (by omega)

/-- **The octets of a text are read back as the text.** -/
theorem decode_encode (cs : List Char) : decode (encode cs) = cs := by
  induction cs with
  | nil => rw [encode, List.flatMap_nil, decode]
  | cons c rest ih =>
    obtain ⟨b, tails, hoctets, hread⟩ := decodeOne_encodeChar c (encode rest)
    have hencode : encode (c :: rest) = b :: (tails ++ encode rest) := by
      rw [encode, List.flatMap_cons, hoctets]
      rfl
    rw [hencode, decode, hread, ih]
    rfl

end Utf8

/-! ### Escapes -/

namespace Percent

theorem hexValue?_hexDigit {n : Nat} (h : n < 16) : hexValue? (hexDigit n) = some n := by
  have hall : ∀ k : Fin 16, hexValue? (hexDigit k) = some k.val := by decide
  exact hall ⟨n, h⟩

theorem isUnreserved_hexDigit {n : Nat} (h : n < 16) : isUnreserved (hexDigit n) = true := by
  have hall : ∀ k : Fin 16, isUnreserved (hexDigit k) = true := by decide
  exact hall ⟨n, h⟩

/-- The escape of an octet stands for the octet. -/
theorem octets_escape (b : UInt8) (rest : List Char) :
    octets (escape b ++ rest) = b :: octets rest := by
  have hb : b.toNat < 256 := b.toNat_lt
  have hhigh := hexValue?_hexDigit (n := b.toNat / 16) (by omega)
  have hlow := hexValue?_hexDigit (n := b.toNat % 16) (by omega)
  have hsame : UInt8.ofNat (b.toNat / 16 * 16 + b.toNat % 16) = b := by
    rw [Nat.div_add_mod', UInt8.ofNat_toNat]
  rw [escape, List.cons_append, List.cons_append, List.cons_append, octets, hhigh, hlow]
  dsimp only
  rw [hsame]
  rfl

/-- A character that begins no escape stands for its own octets. -/
theorem octets_cons {c : Char} (h : c ≠ '%') (rest : List Char) :
    octets (c :: rest) = Utf8.encodeChar c ++ octets rest := by
  rw [octets]
  exact fun _ _ _ hc => absurd hc h

/-- How a character of a form is read before its escapes are. -/
def unplus (c : Char) : Char := if c = '+' then ' ' else c

theorem decodeForm_eq (cs : List Char) : decodeForm cs = decode (cs.map unplus) := rfl

/-- The characters that an encoded text consists of. -/
def isWritten (c : Char) : Bool := isComponentSafe c || c = '%' || c = '+'

theorem isWritten_of_isUnreserved {c : Char} (h : isUnreserved c = true) : isWritten c = true := by
  simp [isWritten, isComponentSafe, h]

/-- A way to write characters is an **encoding** if what it writes for a character stands for its
octets in a form, and if it only writes what an encoded text consists of. -/
structure IsEncoding (write : Char → List Char) : Prop where
  octets_eq : ∀ c rest, octets ((write c).map unplus ++ rest) = Utf8.encodeChar c ++ octets rest
  isWritten_of_mem : ∀ c, ∀ d ∈ write c, isWritten d = true

namespace IsEncoding

variable {write : Char → List Char} (h : IsEncoding write)

include h

/-- What is encoded stands for the octets of the text. -/
theorem octets_flatMap (cs : List Char) :
    octets ((cs.flatMap write).map unplus) = Utf8.encode cs := by
  induction cs with
  | nil => rfl
  | cons c rest ih =>
    rw [List.flatMap_cons, List.map_append, h.octets_eq, ih]
    rfl

/-- **What is encoded is read back.** -/
theorem decodeForm_flatMap (cs : List Char) : decodeForm (cs.flatMap write) = cs := by
  rw [decodeForm_eq, decode, h.octets_flatMap, Utf8.decode_encode]

theorem isWritten_flatMap {cs : List Char} : ∀ d ∈ cs.flatMap write, isWritten d = true := by
  intro d hd
  obtain ⟨c, -, hd⟩ := List.mem_flatMap.mp hd
  exact h.isWritten_of_mem c d hd

end IsEncoding

theorem isWritten_of_mem_escape {b : UInt8} {d : Char} (h : d ∈ escape b) : isWritten d = true := by
  have hb : b.toNat < 256 := b.toNat_lt
  simp only [escape, List.mem_cons, List.not_mem_nil, or_false] at h
  rcases h with rfl | rfl | rfl
  · decide
  · exact isWritten_of_isUnreserved (isUnreserved_hexDigit (by omega))
  · exact isWritten_of_isUnreserved (isUnreserved_hexDigit (by omega))

theorem unplus_of_isUnreserved {c : Char} (h : isUnreserved c = true) : unplus c = c := by
  refine if_neg ?_
  rintro rfl
  exact absurd h (by decide)

theorem map_unplus_escape (b : UInt8) : (escape b).map unplus = escape b := by
  have hb : b.toNat < 256 := b.toNat_lt
  rw [escape, List.map_cons, List.map_cons, List.map_cons,
    unplus_of_isUnreserved (isUnreserved_hexDigit (by omega)),
    unplus_of_isUnreserved (isUnreserved_hexDigit (by omega))]
  rfl

/-- The escapes of a character stand for its octets. -/
theorem octets_escapeChar (c : Char) (rest : List Char) :
    octets ((escapeChar c).map unplus ++ rest) = Utf8.encodeChar c ++ octets rest := by
  rw [escapeChar]
  induction Utf8.encodeChar c with
  | nil => rfl
  | cons b bs ih =>
    rw [List.flatMap_cons, List.map_append, map_unplus_escape, List.append_assoc, octets_escape, ih]
    rfl

theorem isWritten_of_mem_escapeChar {c d : Char} (h : d ∈ escapeChar c) : isWritten d = true := by
  obtain ⟨b, -, hd⟩ := List.mem_flatMap.mp h
  exact isWritten_of_mem_escape hd

/-- A character that stands for itself, as neither a space nor an escape. -/
theorem octets_singleton {c : Char} (hescape : c ≠ '%') (hplus : c ≠ '+') (rest : List Char) :
    octets ([c].map unplus ++ rest) = Utf8.encodeChar c ++ octets rest := by
  have hc : unplus c = c := if_neg hplus
  rw [List.map_singleton, hc]
  exact octets_cons hescape rest

theorem isEncoding_component :
    IsEncoding fun c => if isComponentSafe c then [c] else escapeChar c where
  octets_eq c rest := by
    split
    · next h =>
      refine octets_singleton ?_ ?_ rest
      all_goals
        rintro rfl
        exact absurd h (by decide)
    · exact octets_escapeChar c rest
  isWritten_of_mem c d hd := by
    split at hd
    · next h =>
      rw [List.mem_singleton.mp hd]
      simp [isWritten, h]
    · exact isWritten_of_mem_escapeChar hd

theorem isEncoding_form : IsEncoding encodeFormChar where
  octets_eq c rest := by
    rw [encodeFormChar]
    split
    · next h =>
      -- the plus sign that stands for a space is a space again before the octets are read
      rw [h]
      rfl
    · split
      · next h =>
        refine octets_singleton ?_ ?_ rest
        all_goals
          rintro rfl
          exact absurd h (by decide)
      · exact octets_escapeChar c rest
  isWritten_of_mem c d hd := by
    rw [encodeFormChar] at hd
    split at hd
    · rw [List.mem_singleton.mp hd]
      decide
    · split at hd
      · next h =>
        rw [List.mem_singleton.mp hd]
        exact isWritten_of_isUnreserved h
      · exact isWritten_of_mem_escapeChar hd

/-! ### Fields -/

/-- The field that one piece of a form stands for: its name ends at the first `=`. -/
def readField (piece : List Char) : String × String :=
  (String.ofList (decodeForm (piece.takeWhile (· ≠ '='))),
    String.ofList (decodeForm ((piece.dropWhile (· ≠ '=')).drop 1)))

/-- **The fields that a form-encoded text stands for**: what stands between `&`, if there is
anything. -/
def readForm (s : String) : List (String × String) :=
  ((Text.splitOn (· = '&') s.toList).filter (!·.isEmpty)).map readField

/-- The text is a field in writing: an encoded name, an encoded value and `=` between them. -/
structure Writes (w : String) (f : String × String) : Prop where
  exists_parts : ∃ name value, w.toList = name ++ '=' :: value ∧
    (∀ c ∈ name, isWritten c = true) ∧ (∀ c ∈ value, isWritten c = true) ∧
    decodeForm name = f.1.toList ∧ decodeForm value = f.2.toList

theorem ne_of_isWritten {c mark : Char} (hmark : isWritten mark = false) (h : isWritten c = true) :
    c ≠ mark := by
  rintro rfl
  rw [hmark] at h
  cases h

namespace Writes

variable {w : String} {f : String × String}

/-- What is written with `=` in it has no other mark in it. -/
theorem isWritten_or_eq (h : Writes w f) : ∀ c ∈ w.toList, isWritten c = true ∨ c = '=' := by
  obtain ⟨name, value, hw, hname, hvalue, -⟩ := h
  rw [hw]
  intro c hc
  rcases List.mem_append.mp hc with hc | hc
  · exact .inl (hname c hc)
  · rcases List.mem_cons.mp hc with hc | hc
    · exact .inr hc
    · exact .inl (hvalue c hc)

theorem isEmpty_eq_false (h : Writes w f) : (!w.toList.isEmpty) = true := by
  obtain ⟨name, value, hw, -⟩ := h
  rw [hw]
  cases name <;> rfl

theorem readField_eq (h : Writes w f) : readField w.toList = f := by
  obtain ⟨name, value, hw, hname, -, hfst, hsnd⟩ := h
  have hends : ∀ c ∈ name, (fun c => decide (c ≠ '=')) c = true := fun c hc =>
    decide_eq_true (ne_of_isWritten (by decide) (hname c hc))
  rw [readField, hw, List.takeWhile_append_of_pos hends, List.dropWhile_append_of_pos hends,
    List.takeWhile_cons_of_neg (by decide), List.dropWhile_cons_of_neg (by decide),
    List.append_nil, List.drop_one, List.tail_cons, hfst, hsnd, String.ofList_toList,
    String.ofList_toList]

end Writes

/-- **Fields in writing, with `&` between them, are read back.** -/
theorem readForm_intercalate {α : Type} (write : α → String) (field : α → String × String)
    {l : List α} (h : ∀ a ∈ l, Writes (write a) (field a)) :
    readForm ("&".intercalate (l.map write)) = l.map field := by
  have hpieces : ∀ p ∈ (l.map write).map String.toList,
      (∀ c ∈ p, decide (c = '&') = false) ∧ (!p.isEmpty) = true := by
    intro p hp
    obtain ⟨w, hw, rfl⟩ := List.mem_map.mp hp
    obtain ⟨a, ha, rfl⟩ := List.mem_map.mp hw
    refine ⟨fun c hc => ?_, (h a ha).isEmpty_eq_false⟩
    rcases (h a ha).isWritten_or_eq c hc with hwritten | rfl
    · exact decide_eq_false (ne_of_isWritten (by decide) hwritten)
    · rfl
  have hread : ((l.map write).map String.toList).map readField = l.map field := by
    rw [List.map_map, List.map_map]
    exact List.map_congr_left fun a ha => (h a ha).readField_eq
  rw [readForm, String.toList_intercalate, ← hread]
  generalize (l.map write).map String.toList = pieces at hpieces
  cases pieces with
  | nil =>
    -- the one piece of the empty text is empty, and so it is no field
    rfl
  | cons piece pieces =>
    have hsplit : Text.splitOn (fun c => decide (c = '&'))
        ("&".toList.intercalate (piece :: pieces)) = piece :: pieces :=
      Text.splitOn_intercalate (by decide) fun p hp => (hpieces p hp).1
    rw [hsplit, List.filter_eq_self.mpr fun p hp => (hpieces p hp).2]

/-- A form of one field. -/
theorem readForm_of_writes {w : String} {f : String × String} (h : Writes w f) :
    readForm w = [f] := by
  have hread := readForm_intercalate (fun _ : Unit => w) (fun _ => f) (l := [()]) fun _ _ => h
  simpa using hread

/-- A name or value of unreserved characters is written as it is. -/
theorem flatMap_encodeFormChar_of_isUnreserved {cs : List Char}
    (h : ∀ c ∈ cs, isUnreserved c = true) : cs.flatMap encodeFormChar = cs := by
  induction cs with
  | nil => rfl
  | cons c rest ih =>
    obtain ⟨hc, hrest⟩ := List.forall_mem_cons.mp h
    have hspace : c ≠ ' ' := by
      rintro rfl
      exact absurd hc (by decide)
    rw [List.flatMap_cons, ih hrest, encodeFormChar, if_neg hspace, if_pos hc]
    rfl

/-- A field of a form is in writing. -/
theorem writes_form (f : String × String) :
    Writes (encodeForm f.1 ++ "=" ++ encodeForm f.2) f := by
  refine ⟨f.1.toList.flatMap encodeFormChar, f.2.toList.flatMap encodeFormChar, ?_,
    isEncoding_form.isWritten_flatMap, isEncoding_form.isWritten_flatMap,
    isEncoding_form.decodeForm_flatMap _, isEncoding_form.decodeForm_flatMap _⟩
  simp [encodeForm]

/-- A field with an unreserved name, whose value is a component of an address, is in writing. -/
theorem writes_component {name : String} (hname : name.toList.all isUnreserved = true)
    (value : String) : Writes (name ++ "=" ++ encodeComponent value) (name, value) := by
  have hunreserved : ∀ c ∈ name.toList, isUnreserved c = true := List.all_eq_true.mp hname
  have hdecode : decodeForm name.toList = name.toList := by
    have hread := isEncoding_form.decodeForm_flatMap name.toList
    rwa [flatMap_encodeFormChar_of_isUnreserved hunreserved] at hread
  refine ⟨name.toList, value.toList.flatMap _, ?_,
    fun c hc => isWritten_of_isUnreserved (hunreserved c hc),
    isEncoding_component.isWritten_flatMap, hdecode, isEncoding_component.decodeForm_flatMap _⟩
  simp [encodeComponent, encodeWith]

end Percent

end Lockable
