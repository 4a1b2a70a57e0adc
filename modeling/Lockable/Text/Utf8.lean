import Lockable.Text.Half

/-!
# UTF-8

Texts as octets and back.

* `Utf8.encode` writes a character in one to four octets.
* `Utf8.decodeOne` reads one character, or refuses the **longest** run of octets that could still
  have begun one.
* `Utf8.decode` reads every sequence of octets: each refused run becomes one U+FFFD.
* `Utf8.decode?` reads only what `Utf8.encode` can have written; `Utf8.fault?` says where and why
  it refuses. `Utf8.decodeHalves?` lets halves of pairs pass.
-/

namespace Lockable.Utf8

/-- The octet after the first in a sequence: six bits under the mark of a tail. -/
def tailOctet (n : Nat) : UInt8 := UInt8.ofNat (0x80 + n % 64)

/-- The octets of one character. -/
def encodeChar (c : Char) : List UInt8 :=
  let n := c.toNat
  if n < 0x80 then [UInt8.ofNat n]
  else if n < 0x800 then [UInt8.ofNat (0xC0 + n / 64), tailOctet n]
  else if n < 0x10000 then [UInt8.ofNat (0xE0 + n / 4096), tailOctet (n / 64), tailOctet n]
  else [UInt8.ofNat (0xF0 + n / 262144), tailOctet (n / 4096), tailOctet (n / 64), tailOctet n]

/-- The octets of a text. -/
def encode (cs : List Char) : List UInt8 := cs.flatMap encodeChar

/-- What a first octet announces: its own bits, how many octets follow and the range of the
next one. -/
structure Lead where
  bits : Nat
  tails : Nat
  low : Nat
  high : Nat
  deriving DecidableEq, Repr

/-- The announcement of a first octet, if it can be one. The ranges leave out overlong forms,
surrogates and codes beyond the last character. -/
def lead (b : Nat) : Option Lead :=
  if b < 0x80 then some ⟨b, 0, 0x80, 0xBF⟩
  else if b < 0xC2 then none
  else if b < 0xE0 then some ⟨b - 0xC0, 1, 0x80, 0xBF⟩
  else if b = 0xE0 then some ⟨0, 2, 0xA0, 0xBF⟩
  else if b = 0xED then some ⟨13, 2, 0x80, 0x9F⟩
  else if b < 0xF0 then some ⟨b - 0xE0, 2, 0x80, 0xBF⟩
  else if b = 0xF0 then some ⟨0, 3, 0x90, 0xBF⟩
  else if b < 0xF4 then some ⟨b - 0xF0, 3, 0x80, 0xBF⟩
  else if b = 0xF4 then some ⟨4, 3, 0x80, 0x8F⟩
  else none

/-- Reads the octets that must follow; the code and the rest, or none and what was not read. -/
def readTails : Nat → Nat → Nat → Nat → List UInt8 → Option Nat × List UInt8
  | 0, _, _, code, rest => (some code, rest)
  | _ + 1, _, _, _, [] => (none, [])
  | n + 1, low, high, code, b :: rest =>
    if low ≤ b.toNat ∧ b.toNat ≤ high then
      readTails n 0x80 0xBF (code * 64 + b.toNat % 64) rest
    else (none, b :: rest)

/-- Reading the tails never lengthens the input. -/
theorem length_readTails_le (n low high code : Nat) (rest : List UInt8) :
    (readTails n low high code rest).2.length ≤ rest.length := by
  induction n generalizing low high code rest with
  | zero => simp [readTails]
  | succ n ih =>
    cases rest with
    | nil => simp [readTails]
    | cons b rest =>
      simp only [readTails]
      split
      · exact Nat.le_succ_of_le (ih ..)
      · exact Nat.le_refl _

/-- One character from its octets, or none for a run of octets that is no character. -/
def decodeOne (b : UInt8) (rest : List UInt8) : Option Char × List UInt8 :=
  match lead b.toNat with
  | none => (none, rest)
  | some l =>
    let (code, rest) := readTails l.tails l.low l.high l.bits rest
    (code.map Char.ofNat, rest)

/-- Reading one character takes at least its first octet. -/
theorem length_decodeOne_le (b : UInt8) (rest : List UInt8) :
    (decodeOne b rest).2.length ≤ rest.length := by
  unfold decodeOne
  split
  · exact Nat.le_refl _
  · exact length_readTails_le ..

/-- The text of any octets, each run that is no character becoming U+FFFD. -/
def decode : List UInt8 → List Char
  | [] => []
  | b :: rest =>
    let step := decodeOne b rest
    step.1.getD (Char.ofNat 0xFFFD) :: decode step.2
termination_by octets => octets.length
decreasing_by exact Nat.lt_succ_of_le (length_decodeOne_le b rest)

/-- The text of octets that are the octets of a text. -/
def decode? : List UInt8 → Option (List Char)
  | [] => some []
  | b :: rest =>
    let step := decodeOne b rest
    match step.1 with
    | none => none
    | some c => (decode? step.2).map (c :: ·)
termination_by octets => octets.length
decreasing_by exact Nat.lt_succ_of_le (length_decodeOne_le b rest)

/-- The half of a pair that octets write, if they write one. -/
def half? (b : UInt8) : List UInt8 → Option Nat
  | t :: u :: _ =>
    if b = 0xED ∧ 0xA0 ≤ t ∧ t ≤ 0xBF ∧ 0x80 ≤ u ∧ u ≤ 0xBF then
      some (0xD000 + (t.toNat - 0x80) * 64 + (u.toNat - 0x80))
    else none
  | _ => none

/-- The text of octets that write characters and halves of pairs. -/
def decodeHalves? (half : Nat → Char) : List UInt8 → Option (List Char)
  | [] => some []
  | b :: rest =>
    match half? b rest with
    | some code => (decodeHalves? half (rest.drop 2)).map (half code :: ·)
    | none =>
      let step := decodeOne b rest
      match step.1 with
      | none => none
      | some c => (decodeHalves? half step.2).map (c :: ·)
termination_by octets => octets.length
decreasing_by
  · exact Nat.lt_succ_of_le (List.length_drop ▸ Nat.sub_le ..)
  · exact Nat.lt_succ_of_le (length_decodeOne_le b rest)

/-- What is wrong with a run of octets that is no character. -/
inductive Flaw where
  | badStart
  | badContinuation
  | cutShort
  deriving DecidableEq, Repr

/-- The words for a flaw. -/
def Flaw.text : Flaw → String
  | .badStart => "invalid start byte"
  | .badContinuation => "invalid continuation byte"
  | .cutShort => "unexpected end of data"

/-- The first run of octets that is no character: where it starts, where it stops, and why. -/
structure Fault where
  start : Nat
  stop : Nat
  flaw : Flaw
  deriving DecidableEq, Repr

/-- The first fault of octets that follow `start` others. -/
def fault? (start : Nat) : List UInt8 → Option Fault
  | [] => none
  | b :: rest =>
    let step := decodeOne b rest
    let stop := start + (rest.length + 1 - step.2.length)
    match step.1 with
    | some _ => fault? stop step.2
    | none =>
      some ⟨start, stop,
        if (lead b.toNat).isNone then .badStart
        else if step.2.isEmpty then .cutShort
        else .badContinuation⟩
termination_by octets => octets.length
decreasing_by exact Nat.lt_succ_of_le (length_decodeOne_le b rest)

end Lockable.Utf8
