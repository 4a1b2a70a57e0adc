import Lockable.Markup.Entity
import Lockable.Text.Blank

/-!
# Character references

What `&#60;` and `&lt;` stand for. In **text** a reference stands for one character or stays as it
is written; in an **attribute value** the rules are those of the standard, which leaves some codes
out and reads the longest old name in front of a word.

* `Reference.inText` is the character of a number in text.
* `Reference.resolve` is an attribute value with its references replaced.
-/

namespace Lockable.Markup.Reference

/-- The character that stands for what cannot be read. -/
def replacement : Char := Char.ofNat 0xFFFD

/-- The characters that old pages mean by the codes from 128 to 159; zero where they mean none. -/
def oldCodes : List Nat :=
  [0x20AC, 0, 0x201A, 0x0192, 0x201E, 0x2026, 0x2020, 0x2021,
   0x02C6, 0x2030, 0x0160, 0x2039, 0x0152, 0, 0x017D, 0,
   0, 0x2018, 0x2019, 0x201C, 0x201D, 0x2022, 0x2013, 0x2014,
   0x02DC, 0x2122, 0x0161, 0x203A, 0x0153, 0, 0x017E, 0x0178]

/-- The character that old pages mean by a code. -/
def oldCharacter? (code : Nat) : Option Char :=
  if code < 128 then none
  else match oldCodes[code - 128]? with
    | some 0 => none
    | some meant => some (Char.ofNat meant)
    | none => none

/-- Whether the code is that of a character other than the null. -/
def isScalar (code : Nat) : Bool :=
  code ≠ 0 && (code < 0xD800 || (0xDFFF < code && code ≤ 0x10FFFF))

/-- The character that a number stands for in text. -/
def inText (code : Nat) : Char :=
  if !isScalar code then replacement
  else (oldCharacter? code).getD (Char.ofNat code)

/-- Whether the code is that of a character which no value may hold. -/
def isForbidden (code : Nat) : Bool :=
  (1 ≤ code && code ≤ 8) || code == 11 || (14 ≤ code && code ≤ 31)
    || (127 ≤ code && code ≤ 159) || (0xFDD0 ≤ code && code ≤ 0xFDEF) || code % 0x10000 ≥ 0xFFFE

/-- What a number stands for in a value. -/
def inValue (code : Nat) : List Char :=
  if !isScalar code then [replacement]
  else match oldCharacter? code with
    | some c => [c]
    | none =>
      if [0x81, 0x8D, 0x8F, 0x90, 0x9D].contains code then [Char.ofNat code]
      else if isForbidden code then [] else [Char.ofNat code]

/-- The value of a digit, in any base up to sixteen. -/
def digitValue (c : Char) : Nat :=
  if c.isDigit then c.toNat - 48
  else if c.isUpper then c.toNat - 55
  else c.toNat - 87

/-- Whether the character is a digit of base sixteen. -/
def isHexDigit (c : Char) : Bool :=
  c.isDigit || ('a' ≤ c && c ≤ 'f') || ('A' ≤ c && c ≤ 'F')

/-- The number that digits write. -/
def number (base : Nat) (digits : List Char) : Nat :=
  digits.foldl (fun n c => base * n + digitValue c) 0

/-- The digits of a number after `#`: their base, the digits, and the count of characters in front
of them. -/
def digits? : List Char → Option (Nat × List Char × Nat)
  | x :: cs =>
    if x = 'x' || x = 'X' then
      match cs.takeWhile isHexDigit with
      | [] => none
      | ds => some (16, ds, 1)
    else
      match (x :: cs).takeWhile (·.isDigit) with
      | [] => none
      | ds => some (10, ds, 0)
  | [] => none

/-- The longest old name of at least two characters in front of a word, with its meaning and the
rest of the word. -/
def longestOld (word : List Char) : Nat → Option (List Char × List Char)
  | 0 => none
  | 1 => none
  | n + 2 => match Entity.findLegacy? (word.take (n + 2)) with
    | some meaning => some (meaning, word.drop (n + 2))
    | none => longestOld word (n + 1)

/-- What a word after `&` stands for; a word that is no name stays. -/
def named (word : List Char) (semicolon : Bool) : List Char :=
  let written := if semicolon then word ++ [';'] else word
  match if semicolon then Entity.find? word else Entity.findLegacy? word with
  | some meaning => meaning
  | none => match longestOld word (written.length - 1) with
    | some (meaning, rest) => meaning ++ rest ++ (if semicolon then [';'] else [])
    | none => '&' :: written

/-- Whether the character can be part of a name. -/
def isNamePart (c : Char) : Bool :=
  c ∉ ['\t', '\n', Char.ofNat 12, ' ', '<', '&', '#', ';']

/-- What the reference after an `&` stands for, and how many characters it takes. -/
def meaning? : List Char → Option (List Char × Nat)
  | '#' :: cs => match digits? cs with
    | some (base, ds, skipped) =>
      let ending := match cs.drop (skipped + ds.length) with
        | ';' :: _ => 1
        | _ => 0
      some (inValue (number base ds), 1 + skipped + ds.length + ending)
    | none => none
  | cs =>
    match (cs.takeWhile isNamePart).take 32 with
    | [] => none
    | word => match cs.drop word.length with
      | ';' :: _ => some (named word true, word.length + 1)
      | _ => some (named word false, word.length)

/-- An attribute value with its references replaced. -/
def resolve : List Char → List Char
  | [] => []
  | c :: cs =>
    if c = '&' then
      match meaning? cs with
      | some (meaning, taken) => meaning ++ resolve (cs.drop taken)
      | none => c :: resolve cs
    else c :: resolve cs
  termination_by cs => cs.length
  decreasing_by all_goals simp only [List.length_drop, List.length_cons]; omega

end Lockable.Markup.Reference
