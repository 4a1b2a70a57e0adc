import Lockable.Proofs.Json.Numeral

/-!
# Written and read back

A value that the standard allows (`Json.Standard`: finite numbers, no integer that is too long, and
no key twice in an object) is read back from its text, whatever strings are in it and however deep
it is nested (`Json.read_write`). The text is one line: no character in it is a control character
(`Json.Standard.le_toNat`).

The induction is on what is standard. What it carries is that a value is read back wherever it
stands in a text (`Json.ReadsBack`).
-/

namespace Lockable

/-- Entries with distinct keys are the mapping that they make. -/
theorem Keyed.ofEntries_of_nodup {α : Type} {entries : List (String × α)}
    (h : (entries.map Prod.fst).Nodup) : ofEntries entries = entries := by
  have hgo : ∀ done : List (String × α), ((done ++ entries).map Prod.fst).Nodup →
      entries.foldl (fun done e => insert e.1 e.2 done) done = done ++ entries := by
    clear h
    induction entries with
    | nil => exact fun done _ => (List.append_nil done).symm
    | cons e rest ih =>
      intro done hdone
      have hnew : e.1 ∉ done.map Prod.fst := by
        rw [List.map_append, List.map_cons] at hdone
        exact fun hmem => (List.nodup_append.mp hdone).2.2 _ hmem _ List.mem_cons_self rfl
      have hcons : done ++ e :: rest = done ++ [e] ++ rest := by simp
      rw [List.foldl_cons, insert_of_notMem hnew, hcons]
      exact ih _ (hcons ▸ hdone)
  exact hgo [] h

namespace Json

variable {half : Nat → Char} {c : Char} {cs rest : List Char} {fuel : Nat} {start : List Char}

/-! ### Strings -/

/-- How a character is written: by a letter after a backslash, by its code, or as it is. -/
theorem escapeChar_cases (c : Char) :
    (∃ e, escapeChar c = ['\\', e] ∧ escapeOf? e = some c ∧ e ≠ 'u' ∧ 32 ≤ e.toNat) ∨
      (escapeChar c = '\\' :: 'u' :: Text.hexDigits 4 c.toNat ∧ c.toNat < 32) ∨
      escapeChar c = [c] ∧ 32 ≤ c.toNat ∧ c ≠ '"' ∧ c ≠ '\\' := by
  have hcode : ∀ {n : Nat}, c.toNat = n → c = Char.ofNat n := by
    rintro n rfl
    exact (Char.ofNat_toNat c).symm
  rw [escapeChar]
  split_ifs with hquote hslash hn hr ht hf hb hcontrol
  · exact .inl ⟨'"', rfl, by rw [hquote]; rfl, by decide, by decide⟩
  · exact .inl ⟨'\\', rfl, by rw [hslash]; rfl, by decide, by decide⟩
  · exact .inl ⟨'n', rfl, hn ▸ rfl, by decide, by decide⟩
  · exact .inl ⟨'r', rfl, hr ▸ rfl, by decide, by decide⟩
  · exact .inl ⟨'t', rfl, ht ▸ rfl, by decide, by decide⟩
  · exact .inl ⟨'f', rfl, hcode hf ▸ rfl, by decide, by decide⟩
  · exact .inl ⟨'b', rfl, hcode hb ▸ rfl, by decide, by decide⟩
  · exact .inr (.inl ⟨rfl, hcontrol⟩)
  · exact .inr (.inr ⟨rfl, not_lt.mp hcontrol, hquote, hslash⟩)

/-- A hexadecimal digit is read as its number. -/
theorem hexValue?_hexDigit {n : Nat} (h : n < 16) : hexValue? (Text.hexDigit n) = some n := by
  have hall : ∀ k : Fin 16, hexValue? (Text.hexDigit k) = some k.val := by decide
  exact hall ⟨n, h⟩

/-- Four hexadecimal digits are read as the code that they write. -/
theorem fourHex?_hexDigits {n : Nat} (h : n < 65536) (rest : List Char) :
    fourHex? (Text.hexDigits 4 n ++ rest) = some (n, rest) := by
  have hdigits : Text.hexDigits 4 n = [Text.hexDigit (n / 16 / 16 / 16 % 16),
      Text.hexDigit (n / 16 / 16 % 16), Text.hexDigit (n / 16 % 16), Text.hexDigit (n % 16)] := rfl
  have hmod : ∀ m : Nat, hexValue? (Text.hexDigit (m % 16)) = some (m % 16) := fun m =>
    hexValue?_hexDigit (Nat.mod_lt m (by decide))
  rw [hdigits]
  have hsum : ((n / 16 / 16 / 16 % 16 * 16 + n / 16 / 16 % 16) * 16 + n / 16 % 16) * 16 + n % 16 =
      n := by omega
  simp only [List.cons_append, List.nil_append, fourHex?, hmod, Option.bind_eq_bind,
    Option.bind_some, hsum]
  rfl

/-- A control character is read back from its code. -/
theorem codeEscape_hexDigits (hc : c.toNat < 32) (hrest : rest ≠ []) :
    codeEscape half (Text.hexDigits 4 c.toNat ++ rest) = .ok (c, rest) := by
  have hlong : ¬ ((Text.hexDigits 4 c.toNat ++ rest).drop 4).isEmpty = true := by
    simpa [Text.hexDigits] using hrest
  rw [codeEscape, if_neg hlong, fourHex?_hexDigits (by omega)]
  have hhigh : Half.isHigh c.toNat = false := by simp [Half.isHigh]; omega
  have hlow : Half.isLow c.toNat = false := by simp [Half.isLow]; omega
  dsimp only
  rw [hhigh, if_neg Bool.false_ne_true, Half.charOf, hhigh, hlow]
  exact congrArg (fun c => Except.ok (c, rest)) (Char.ofNat_toNat c)

/-- One character of a string is read back. -/
theorem readString_escapeChar (hrest : rest ≠ []) :
    readString half (fuel + 1) start (escapeChar c ++ rest) =
      (readString half fuel start rest).map fun read => (c :: read.1, read.2) := by
  rcases escapeChar_cases c with ⟨e, hesc, hcode, hu, -⟩ | ⟨hesc, hcontrol⟩ |
    ⟨hesc, hge, hquote, hslash⟩ <;> rw [hesc]
  · rw [List.cons_append, List.singleton_append, readString, if_neg (by decide), if_pos rfl,
      hcode]
    · cases readString half fuel start rest <;> rfl
    · exact hu
  · rw [List.cons_append, List.cons_append, readString, if_neg (by decide), if_pos rfl,
      codeEscape_hexDigits hcontrol hrest]
    dsimp only [bind, Except.bind]
    cases readString half fuel start rest <;> rfl
  · rw [List.singleton_append, readString.eq_def]
    dsimp only
    rw [if_neg hquote, if_neg hslash, if_neg (not_lt.mpr hge)]
    cases readString half fuel start rest <;> rfl

/-- A string is read back up to its closing quote. -/
theorem readString_append (hfuel : cs.length < fuel) :
    readString half fuel start (cs.flatMap escapeChar ++ '"' :: rest) = .ok (cs, rest) := by
  induction cs generalizing fuel with
  | nil =>
    obtain ⟨fuel, rfl⟩ := Nat.exists_eq_succ_of_ne_zero (Nat.ne_of_gt hfuel)
    rfl
  | cons c cs ih =>
    obtain ⟨fuel, rfl⟩ := Nat.exists_eq_succ_of_ne_zero (Nat.ne_of_gt (Nat.zero_lt_of_lt hfuel))
    rw [List.flatMap_cons, List.append_assoc, Nat.succ_eq_add_one,
      readString_escapeChar (by simp), ih (Nat.lt_of_succ_lt_succ hfuel)]
    rfl

/-! ### What is read back -/

/-- A value that the **standard** allows: numbers are finite, integers are not too long, and no
object has a key twice. -/
inductive Standard : Json → Prop
  | null : Standard .null
  | bool (b : Bool) : Standard (.bool b)
  | int {n : Int} (h : Showable n) : Standard (.int n)
  | float {x : Binary64} (h : x.isFinite = true) : Standard (.float x)
  | text (s : String) : Standard (.text s)
  | list {items : List Json} (h : ∀ j ∈ items, Standard j) : Standard (.list items)
  | object {members : List (String × Json)} (hkeys : (members.map Prod.fst).Nodup)
      (h : ∀ e ∈ members, Standard e.2) : Standard (.object members)

/-- The value is **read back** from its text, whatever follows that does not go on with a numeral.
Two units of fuel for each character are enough. -/
structure ReadsBack (j : Json) : Prop where
  begins : ∃ c cs, writeChars j = c :: cs ∧ isSpace c = false ∧ c ≠ ']'
  read : ∀ half fuel rest, 2 * (writeChars j).length ≤ fuel → EndsNumeral rest →
    readValue half fuel (writeChars j ++ rest) = .ok (j, rest)

namespace ReadsBack

variable {j : Json}

/-- Whoever reads a value has fuel for one step. -/
theorem of_read (hbegins : ∃ c cs, writeChars j = c :: cs ∧ isSpace c = false ∧ c ≠ ']')
    (hread : ∀ half fuel rest, 2 * (writeChars j).length ≤ fuel + 1 → EndsNumeral rest →
      readValue half (fuel + 1) (writeChars j ++ rest) = .ok (j, rest)) : ReadsBack j where
  begins := hbegins
  read half fuel rest hfuel hrest := by
    obtain ⟨c, cs, hcs, -⟩ := hbegins
    have hpos : fuel ≠ 0 := by
      rintro rfl
      simp [hcs] at hfuel
    obtain ⟨fuel, rfl⟩ := Nat.exists_eq_succ_of_ne_zero hpos
    exact hread half fuel rest hfuel hrest

/-- No word begins like a numeral. -/
theorem readWord?_eq_none (hc : c.isDigit = true) :
    readWord? (c :: cs) = none ∧ readWord? ('-' :: c :: cs) = none := by
  have hne : ∀ d : Char, d.isDigit = false → d ≠ c := by
    rintro d hd rfl
    rw [hc] at hd
    cases hd
  constructor <;> simp [readWord?, wordValues, afterWord?, hne]

theorem readValue_of_number {found : Json} (hquote : c ≠ '"') (hlist : c ≠ '[')
    (hobject : c ≠ '\x7b') (hword : readWord? (c :: cs) = none)
    (hnumber : readNumber (c :: cs) = some (.ok found, rest)) :
    readValue half (fuel + 1) (c :: cs) = .ok (found, rest) := by
  rw [readValue.eq_def]
  dsimp only
  split
  · next heq =>
    cases heq
    exact absurd rfl hquote
  · next heq =>
    cases heq
    exact absurd rfl hlist
  · next heq =>
    cases heq
    exact absurd rfl hobject
  · rw [hword, hnumber]

/-- A number is read back from its numeral. -/
theorem of_numeral {x : Numeral} (hx : x.WellFormed) (hchars : x.chars = writeChars j)
    (hvalue : x.value = j) : ReadsBack j := by
  obtain ⟨c, cs, hc, hcs⟩ := Numeral.exists_chars hx
  have hne : ∀ d : Char, d.isDigit = false → c ≠ d := by
    rintro d hd rfl
    rw [hc] at hd
    cases hd
  have hspace : isSpace c = false := by simp [isSpace, hne]
  refine of_read ?_ fun half fuel rest _ hrest => ?_
  · rw [← hchars]
    rcases hcs with hcs | hcs
    · exact ⟨c, cs, hcs, hspace, hne _ (by decide)⟩
    · exact ⟨'-', c :: cs, hcs, by decide, by decide⟩
  · have hread := Numeral.readNumber_append hx hrest
    rw [hvalue] at hread
    rw [← hchars]
    rcases hcs with hcs | hcs <;> rw [hcs] at hread ⊢
    · exact readValue_of_number (hne _ (by decide)) (hne _ (by decide)) (hne _ (by decide))
        (readWord?_eq_none hc).1 hread
    · exact readValue_of_number (by decide) (by decide) (by decide) (readWord?_eq_none hc).2 hread

theorem null : ReadsBack .null :=
  of_read ⟨_, _, rfl, rfl, by decide⟩ fun _ _ _ _ _ => rfl

theorem bool (b : Bool) : ReadsBack (.bool b) := by
  cases b with
  | true => exact of_read ⟨_, _, rfl, rfl, by decide⟩ fun _ _ _ _ _ => rfl
  | false => exact of_read ⟨_, _, rfl, rfl, by decide⟩ fun _ _ _ _ _ => rfl

/-- Every character of a string is written, so there is fuel for it. -/
theorem length_le_length_flatMap (cs : List Char) :
    cs.length ≤ (cs.flatMap escapeChar).length := by
  induction cs with
  | nil => exact le_rfl
  | cons c cs ih =>
    have hpos : 0 < (escapeChar c).length := by
      rcases escapeChar_cases c with ⟨e, hesc, -⟩ | ⟨hesc, -⟩ | ⟨hesc, -⟩ <;> rw [hesc] <;>
        exact Nat.succ_pos _
    rw [List.flatMap_cons, List.length_append, List.length_cons]
    omega

/-- A key or a text is read back from its quotes. -/
theorem readString_writeText (s : String) (hfuel : (writeText s).length ≤ fuel + 1) :
    readString half fuel start (s.toList.flatMap escapeChar ++ '"' :: rest) =
      .ok (s.toList, rest) := by
  have hlength := length_le_length_flatMap s.toList
  simp only [writeText, List.length_cons, List.length_append, List.length_nil] at hfuel
  exact readString_append (by omega)

theorem writeText_append (s : String) (rest : List Char) :
    writeText s ++ rest = '"' :: (s.toList.flatMap escapeChar ++ '"' :: rest) := by
  simp [writeText]

theorem text (s : String) : ReadsBack (.text s) := by
  refine of_read ⟨_, _, rfl, rfl, by decide⟩ fun half fuel rest hfuel _ => ?_
  have hlength : (writeChars (.text s)).length = (writeText s).length := by rw [writeChars]
  have hpos : 0 < (writeText s).length := by simp [writeText]
  rw [writeChars, writeText_append, readValue, readString_writeText s (by omega)]
  exact congrArg (fun t => Except.ok (Json.text t, rest)) String.ofList_toList

/-- Nothing between the tokens of a written value is skipped but the spaces there. -/
theorem skip_writeChars (h : ReadsBack j) (rest : List Char) :
    skip (writeChars j ++ rest) = writeChars j ++ rest := by
  obtain ⟨c, cs, hcs, hspace, -⟩ := h.begins
  rw [hcs, List.cons_append, skip, List.dropWhile_cons_of_neg (by simp [hspace])]

theorem skip_space (cs : List Char) : skip (' ' :: cs) = skip cs := rfl

theorem endsNumeral_cons (hc : c = ',' ∨ c = ']' ∨ c = '\x7d') (cs : List Char) :
    EndsNumeral (c :: cs) := by
  rintro d ⟨⟩
  rcases hc with rfl | rfl | rfl <;> decide

/-- The last item of a list is read with its bracket. -/
theorem readItems_last (hj : ReadsBack j) (hfuel : 2 * (writeChars j).length ≤ fuel) :
    readItems half (fuel + 1) (writeChars j ++ ']' :: rest) = .ok ([j], rest) := by
  rw [readItems, hj.read _ _ _ hfuel (endsNumeral_cons (by decide) rest)]
  rfl

/-- After an item that is not the last the next one is read. -/
theorem readItems_next (hj : ReadsBack j) (hfuel : 2 * (writeChars j).length ≤ fuel)
    (hskip : skip rest = rest) :
    readItems half (fuel + 1) (writeChars j ++ ',' :: ' ' :: rest) =
      (readItems half fuel rest).map fun read => (j :: read.1, read.2) := by
  rw [readItems, hj.read _ _ _ hfuel (endsNumeral_cons (by decide) _)]
  change (do
    let read ← readItems half fuel (skip (' ' :: rest))
    pure (j :: read.1, read.2)) = _
  rw [skip_space, hskip]
  rfl

/-- The items of a list are read back, one after another. -/
theorem readItems_append {items : List Json} (hj : ReadsBack j) (hitems : ∀ i ∈ items, ReadsBack i)
    (hfuel : 2 * (writeChars j ++ writeItems items).length ≤ fuel) :
    readItems half (fuel + 1) (writeChars j ++ (writeItems items ++ rest)) =
      .ok (j :: items, rest) := by
  induction items generalizing j fuel with
  | nil =>
    rw [List.length_append] at hfuel
    exact readItems_last hj (by omega)
  | cons i items ih =>
    have hi : ReadsBack i := hitems i List.mem_cons_self
    have htail : writeItems (i :: items) ++ rest =
        ',' :: ' ' :: (writeChars i ++ (writeItems items ++ rest)) := by
      simp [writeItems]
    simp only [writeItems, List.length_append, List.length_cons] at hfuel
    obtain ⟨fuel, rfl⟩ : ∃ k, fuel = k + 1 := ⟨fuel - 1, by omega⟩
    have hnext : readItems half (fuel + 1) (writeChars i ++ (writeItems items ++ rest)) =
        .ok (i :: items, rest) := by
      refine ih hi (fun x hx => hitems x (List.mem_cons_of_mem _ hx)) ?_
      rw [List.length_append]
      omega
    rw [htail, readItems_next hj (by omega) (skip_writeChars hi _), hnext]
    rfl

/-- A list that is not empty goes on with its first item. -/
theorem readValue_list (hskip : skip cs = c :: rest) (hc : c ≠ ']') :
    readValue half (fuel + 1) ('[' :: cs) =
      (readItems half fuel (c :: rest)).map fun read => (.list read.1, read.2) := by
  rw [readValue, hskip]
  split
  · next heq =>
    cases heq
    exact absurd rfl hc
  · cases readItems half fuel (c :: rest) <;> rfl

theorem list {items : List Json} (h : ∀ j ∈ items, ReadsBack j) : ReadsBack (.list items) := by
  cases items with
  | nil => exact of_read ⟨_, _, rfl, rfl, by decide⟩ fun _ _ _ _ _ => rfl
  | cons j items =>
    refine of_read ⟨_, _, rfl, rfl, by decide⟩ fun half fuel rest hfuel _ => ?_
    have hj : ReadsBack j := h j List.mem_cons_self
    simp only [writeChars, List.length_append, List.length_cons] at hfuel
    obtain ⟨fuel, rfl⟩ : ∃ k, fuel = k + 1 := ⟨fuel - 1, by omega⟩
    have hread : readItems half (fuel + 1) (writeChars j ++ (writeItems items ++ rest)) =
        .ok (j :: items, rest) := by
      refine readItems_append hj (fun x hx => h x (List.mem_cons_of_mem _ hx)) ?_
      rw [List.length_append]
      omega
    have hskip := skip_writeChars hj (writeItems items ++ rest)
    have hchars : writeChars (.list (j :: items)) ++ rest =
        '[' :: (writeChars j ++ (writeItems items ++ rest)) := by
      simp [writeChars]
    obtain ⟨c, cs, hcs, -, hc⟩ := hj.begins
    rw [hcs, List.cons_append] at hread hskip
    rw [hchars, hcs, List.cons_append, readValue_list hskip hc, hread]
    rfl

/-! ### Members -/

theorem skip_writeText (k : String) (rest : List Char) :
    skip (writeText k ++ rest) = writeText k ++ rest := rfl

/-- What the reader of members does after the value of a member. -/
def readMembersAfter (half : Nat → Char) (fuel : Nat) (member : String × Json) (cs : List Char) :
    Except Fault (List (String × Json) × List Char) :=
  match skip cs with
  | '\x7d' :: after => .ok ([member], after)
  | ',' :: after => do
    let members ← readMembers half fuel (skip after)
    return (member :: members.1, members.2)
  | rest => .error ⟨.noComma, rest.length⟩

/-- The first member is read back, up to what follows it. -/
theorem readMembers_member (hj : ReadsBack j) (k : String)
    (hfuel : (writeText k).length + 2 * (writeChars j).length ≤ fuel) (hrest : EndsNumeral rest) :
    readMembers half (fuel + 1) (writeText k ++ ':' :: ' ' :: (writeChars j ++ rest)) =
      readMembersAfter half fuel (k, j) rest := by
  have hvalue : readValue half fuel (skip (' ' :: (writeChars j ++ rest))) = .ok (j, rest) := by
    rw [skip_space, skip_writeChars hj]
    exact hj.read _ _ _ (by omega) hrest
  rw [writeText_append, readMembers, readString_writeText k (by omega)]
  change (do
    let value ← readValue half fuel (skip (' ' :: (writeChars j ++ rest)))
    readMembersAfter half fuel (String.ofList k.toList, value.1) value.2) = _
  rw [hvalue, String.ofList_toList]
  rfl

/-- The last member of an object is read with its brace. -/
theorem readMembers_last (hj : ReadsBack j) (k : String)
    (hfuel : (writeText k).length + 2 * (writeChars j).length ≤ fuel) :
    readMembers half (fuel + 1) (writeText k ++ ':' :: ' ' :: (writeChars j ++ '\x7d' :: rest)) =
      .ok ([(k, j)], rest) := by
  rw [readMembers_member hj k hfuel (endsNumeral_cons (by decide) rest)]
  rfl

/-- After a member that is not the last the next one is read. -/
theorem readMembers_next (hj : ReadsBack j) (k : String)
    (hfuel : (writeText k).length + 2 * (writeChars j).length ≤ fuel) (hskip : skip rest = rest) :
    readMembers half (fuel + 1)
        (writeText k ++ ':' :: ' ' :: (writeChars j ++ ',' :: ' ' :: rest)) =
      (readMembers half fuel rest).map fun read => ((k, j) :: read.1, read.2) := by
  rw [readMembers_member hj k hfuel (endsNumeral_cons (by decide) _)]
  change (do
    let members ← readMembers half fuel (skip (' ' :: rest))
    pure ((k, j) :: members.1, members.2)) = _
  rw [skip_space, hskip]
  rfl

/-- The members of an object are read back, one after another. -/
theorem readMembers_append {k : String} {members : List (String × Json)} (hj : ReadsBack j)
    (hmembers : ∀ e ∈ members, ReadsBack e.2)
    (hfuel :
      2 * (writeText k ++ ':' :: ' ' :: writeChars j ++ writeMembers members).length ≤ fuel) :
    readMembers half (fuel + 1)
        (writeText k ++ ':' :: ' ' :: (writeChars j ++ (writeMembers members ++ rest))) =
      .ok ((k, j) :: members, rest) := by
  induction members generalizing k j fuel with
  | nil =>
    simp only [List.length_append, List.length_cons] at hfuel
    exact readMembers_last hj k (by omega)
  | cons e members ih =>
    obtain ⟨k', i⟩ := e
    have hi : ReadsBack i := hmembers _ List.mem_cons_self
    have htail : writeMembers ((k', i) :: members) ++ rest = ',' :: ' ' ::
        (writeText k' ++ ':' :: ' ' :: (writeChars i ++ (writeMembers members ++ rest))) := by
      simp [writeMembers]
    simp only [writeMembers, List.length_append, List.length_cons] at hfuel
    obtain ⟨fuel, rfl⟩ : ∃ k, fuel = k + 1 := ⟨fuel - 1, by omega⟩
    have hnext : readMembers half (fuel + 1)
        (writeText k' ++ ':' :: ' ' :: (writeChars i ++ (writeMembers members ++ rest))) =
        .ok ((k', i) :: members, rest) := by
      refine ih hi (fun x hx => hmembers x (List.mem_cons_of_mem _ hx)) ?_
      simp only [List.length_append, List.length_cons]
      omega
    rw [htail, readMembers_next hj k (by omega) (skip_writeText k' _), hnext]
    rfl

/-- An object that is not empty goes on with its first key. -/
theorem readValue_object :
    readValue half (fuel + 1) ('\x7b' :: '"' :: rest) =
      (readMembers half fuel ('"' :: rest)).map fun read => (ofMembers read.1, read.2) := by
  have hskip : skip ('"' :: rest) = '"' :: rest := rfl
  rw [readValue, hskip]
  split
  · next heq => exact absurd heq (by simp)
  · cases readMembers half fuel ('"' :: rest) <;> rfl

theorem object {members : List (String × Json)} (hkeys : (members.map Prod.fst).Nodup)
    (h : ∀ e ∈ members, ReadsBack e.2) : ReadsBack (.object members) := by
  cases members with
  | nil => exact of_read ⟨_, _, rfl, rfl, by decide⟩ fun _ _ _ _ _ => rfl
  | cons e members =>
    obtain ⟨k, j⟩ := e
    refine of_read ⟨_, _, rfl, rfl, by decide⟩ fun half fuel rest hfuel _ => ?_
    have hj : ReadsBack j := h _ List.mem_cons_self
    simp only [writeChars, List.length_append, List.length_cons] at hfuel
    obtain ⟨fuel, rfl⟩ : ∃ k, fuel = k + 1 := ⟨fuel - 1, by omega⟩
    have hread : readMembers half (fuel + 1)
        (writeText k ++ ':' :: ' ' :: (writeChars j ++ (writeMembers members ++ rest))) =
        .ok ((k, j) :: members, rest) := by
      refine readMembers_append hj (fun x hx => h x (List.mem_cons_of_mem _ hx)) ?_
      simp only [List.length_append, List.length_cons]
      omega
    have hchars : writeChars (.object ((k, j) :: members)) ++ rest = '\x7b' ::
        (writeText k ++ ':' :: ' ' :: (writeChars j ++ (writeMembers members ++ rest))) := by
      simp [writeChars]
    rw [writeText_append] at hread hchars
    rw [hchars, readValue_object, hread]
    exact congrArg (fun e => Except.ok (Json.object e, rest)) (Keyed.ofEntries_of_nodup hkeys)

end ReadsBack

/-- What is standard can be shown. -/
theorem Standard.showable {j : Json} (h : j.Standard) : j.showable = true := by
  induction h with
  | int h => simpa [Json.showable] using h
  | list h ih => exact showable_list_iff.mpr ih
  | object hkeys h ih => exact showable_object_iff.mpr ih
  | _ => rfl

/-- **What is standard is read back** wherever it stands. -/
theorem Standard.readsBack {j : Json} (h : j.Standard) : ReadsBack j := by
  induction h with
  | null => exact .null
  | bool b => exact .bool b
  | int h =>
    obtain ⟨x, hx, hchars, hvalue⟩ := exists_numeral_int h
    exact .of_numeral hx (by rw [hchars, writeChars]) hvalue
  | float h =>
    obtain ⟨x, hx, hchars, hvalue⟩ := exists_numeral_float h
    exact .of_numeral hx (by rw [hchars, writeChars]) hvalue
  | text s => exact .text s
  | list h ih => exact .list ih
  | object hkeys h ih => exact .object hkeys ih

/-- **A written value** is read back. -/
theorem read_write {j : Json} (h : j.Standard) : read (write j) = .ok j := by
  have hread := h.readsBack.read Half.lost (2 * (writeChars j).length + 2) [] (by omega)
    (by rintro c ⟨⟩)
  have hskip := h.readsBack.skip_writeChars []
  rw [List.append_nil] at hread hskip
  rw [read, write, String.toList_ofList, readChars, hskip, hread]
  rfl

/-! ### Control characters -/

theorem le_toNat_hexDigit {n : Nat} (h : n < 16) : 32 ≤ (Text.hexDigit n).toNat := by
  have hall : ∀ k : Fin 16, 32 ≤ (Text.hexDigit k).toNat := by decide
  exact hall ⟨n, h⟩

/-- Whatever character it stands for, an escape has no control character in it. -/
theorem le_toNat_escapeChar (c : Char) : ∀ d ∈ escapeChar c, 32 ≤ d.toNat := by
  rcases escapeChar_cases c with ⟨e, hesc, -, -, he⟩ | ⟨hesc, -⟩ | ⟨hesc, hge, -⟩ <;> rw [hesc]
  · simpa using he
  · have hdigit : ∀ m : Nat, 32 ≤ (Text.hexDigit (m % 16)).toNat := fun m =>
      le_toNat_hexDigit (Nat.mod_lt m (by decide))
    simp [Text.hexDigits, hdigit]
  · simpa using hge

theorem le_toNat_writeText (s : String) : ∀ c ∈ writeText s, 32 ≤ c.toNat := by
  intro c hc
  simp only [writeText, List.cons_append, List.mem_cons, List.mem_append, List.mem_flatMap,
    List.not_mem_nil, or_false] at hc
  obtain rfl | ⟨d, -, hc⟩ | rfl := hc
  · decide
  · exact le_toNat_escapeChar d c hc
  · decide

theorem le_toNat_writeItems {items : List Json}
    (h : ∀ j ∈ items, ∀ c ∈ writeChars j, 32 ≤ c.toNat) :
    ∀ c ∈ writeItems items, 32 ≤ c.toNat := by
  induction items with
  | nil => rw [writeItems]; exact le_toNat_of_all (by decide)
  | cons j items ih =>
    obtain ⟨hj, hitems⟩ := List.forall_mem_cons.mp h
    rw [writeItems, List.cons_append, List.cons_append, List.forall_mem_cons, List.forall_mem_cons,
      List.forall_mem_append]
    exact ⟨by decide, by decide, hj, ih hitems⟩

theorem le_toNat_writeMembers {members : List (String × Json)}
    (h : ∀ e ∈ members, ∀ c ∈ writeChars e.2, 32 ≤ c.toNat) :
    ∀ c ∈ writeMembers members, 32 ≤ c.toNat := by
  induction members with
  | nil => rw [writeMembers]; exact le_toNat_of_all (by decide)
  | cons e members ih =>
    obtain ⟨hj, hmembers⟩ := List.forall_mem_cons.mp h
    obtain ⟨k, j⟩ := e
    have hchars : writeMembers ((k, j) :: members) =
        [',', ' '] ++ writeText k ++ [':', ' '] ++ writeChars j ++ writeMembers members := by
      simp [writeMembers]
    simp only [hchars, List.forall_mem_append]
    exact ⟨⟨⟨⟨le_toNat_of_all (by decide), le_toNat_writeText k⟩, le_toNat_of_all (by decide)⟩, hj⟩,
      ih hmembers⟩

/-- **What is written is one line**, without control characters. -/
theorem Standard.le_toNat {j : Json} (h : j.Standard) : ∀ c ∈ writeChars j, 32 ≤ c.toNat := by
  induction h with
  | null => rw [writeChars]; exact le_toNat_of_all (by decide)
  | bool b => cases b <;> rw [writeChars] <;> exact le_toNat_of_all (by decide)
  | int h =>
    obtain ⟨x, hx, hchars, -⟩ := exists_numeral_int h
    rw [writeChars, ← hchars]
    exact Numeral.le_toNat hx
  | float h =>
    obtain ⟨x, hx, hchars, -⟩ := exists_numeral_float h
    rw [writeChars, ← hchars]
    exact Numeral.le_toNat hx
  | text s =>
    rw [writeChars]
    exact le_toNat_writeText s
  | @list items _ ih =>
    cases items with
    | nil => rw [writeChars]; exact le_toNat_of_all (by decide)
    | cons j items =>
      obtain ⟨hj, hitems⟩ := List.forall_mem_cons.mp ih
      rw [writeChars, List.cons_append, List.forall_mem_cons, List.forall_mem_append]
      exact ⟨by decide, hj, le_toNat_writeItems hitems⟩
  | @object members _ _ ih =>
    cases members with
    | nil => rw [writeChars]; exact le_toNat_of_all (by decide)
    | cons e members =>
      obtain ⟨hj, hmembers⟩ := List.forall_mem_cons.mp ih
      obtain ⟨k, j⟩ := e
      have hchars : writeChars (.object ((k, j) :: members)) =
          ['\x7b'] ++ writeText k ++ [':', ' '] ++ writeChars j ++ writeMembers members := by
        simp [writeChars]
      simp only [hchars, List.forall_mem_append]
      exact ⟨⟨⟨⟨le_toNat_of_all (by decide), le_toNat_writeText k⟩, le_toNat_of_all (by decide)⟩,
        hj⟩, le_toNat_writeMembers hmembers⟩

end Json

end Lockable
