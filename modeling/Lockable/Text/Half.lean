import Lockable.Text.Quoted

/-!
# Halves of pairs

Some forms of Unicode write a character beyond the first 65536 as a **pair** of codes. A half of a
pair that stands alone is no character, though what reads octets or escapes may let it pass; a text
that has one cannot be written in octets again.

A text of this library has characters only. So what may have halves in it is read **twice**: `lost`
reads a half as U+FFFD, and `marked` as a character for private use that tells which half it is.
Where the two readings differ, there a half stands (`Half.flaw?`).
-/

namespace Lockable.Half

/-- The code is the first half of a pair. -/
def isHigh (code : Nat) : Bool := 0xD800 ≤ code && code < 0xDC00

/-- The code is the second half of a pair. -/
def isLow (code : Nat) : Bool := 0xDC00 ≤ code && code < 0xE000

/-- The character that a pair writes. -/
def join (high low : Nat) : Char :=
  Char.ofNat (0x10000 + (high - 0xD800) * 1024 + (low - 0xDC00))

/-- A half as what stands for no character. -/
def lost (_code : Nat) : Char := Char.ofNat 0xFFFD

/-- A half as a character of its own. -/
def marked (code : Nat) : Char := Char.ofNat (0xE000 + (code - 0xD800))

/-- The character of a code, a half being read as told. -/
def charOf (half : Nat → Char) (code : Nat) : Char :=
  if isHigh code || isLow code then half code else Char.ofNat code

/-- The half that a character is, by its two readings. -/
def of? (lost marked : Char) : Option Nat :=
  if lost = marked then none else some (marked.toNat - 0xE000 + 0xD800)

/-- Why a text cannot be written in octets, by its two readings: the first run of halves in it. -/
def flaw? (lost marked : List Char) : Option String :=
  let halves := List.zipWith of? lost marked
  let start := (halves.takeWhile Option.isNone).length
  match (halves.drop start).takeWhile Option.isSome with
  | [] => none
  | [code] =>
    let shown := String.ofList (Text.escapeCode (code.getD 0))
    some (s!"'utf-8' codec can't encode character '{shown}' in position {start}: "
      ++ "surrogates not allowed")
  | run =>
    let stop := start + run.length - 1
    some (s!"'utf-8' codec can't encode characters in position {start}-{stop}: "
      ++ "surrogates not allowed")

end Lockable.Half
