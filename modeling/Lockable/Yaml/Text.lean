import Lockable.Failure
import Lockable.Text.Utf8
import Lockable.Yaml.Cursor

/-!
# Texts in YAML

The five ways of writing a text: plain, in single or double quotes, and as a literal or folded
block. In all but the literal block a single line end becomes a space and a run of them loses its
first.

Readers return the text and the place after it. What they cannot read is **malformed**, or is a
value that cannot be made for the cause given.
-/

namespace Lockable.Yaml

/-- Why no value can be made of a word. -/
inductive Unmakable where
  /-- A value out of range, in these words. -/
  | wrongValue (words : String)
  /-- A number too large for its use, in these words. -/
  | tooLarge (words : String)
  /-- A position beyond the end. -/
  | outOfRange (what : String)
  /-- A word that stands for nothing of its kind. -/
  | missingMember (key : String)
  /-- A value of this kind has no such attribute. -/
  | noAttribute (kind wanted : String)
  deriving DecidableEq, Repr

/-- The failure of whoever wants the value. -/
def Unmakable.failure : Unmakable → Failure
  | wrongValue words => .wrongValue words
  | tooLarge words => .tooLarge words
  | outOfRange what => .outOfRange what
  | missingMember key => .missingMember key
  | noAttribute kind wanted => .noAttribute kind wanted

/-- A value that cannot be made is nothing that the user is told of. -/
theorem Unmakable.isReported_failure (u : Unmakable) : u.failure.isReported = false := by
  cases u <;> rfl

/-- Why a YAML text has no value. -/
inductive Fault where
  | malformed
  | unmakable (cause : Unmakable)
  deriving DecidableEq, Repr

/-- What comes of reading YAML. -/
abbrev Reading (α : Type) : Type := Except Fault α

/-- Nothing that YAML allows. -/
def malformed {α : Type} : Reading α := .error .malformed

/-! ### Quoted texts -/

/-- What a letter after a backslash stands for in double quotes. -/
def escapes : List (Char × Nat) :=
  [('0', 0), ('a', 7), ('b', 8), ('t', 9), ('\t', 9), ('n', 10), ('v', 11), ('f', 12), ('r', 13),
   ('e', 27), (' ', 32), ('"', 34), ('\\', 92), ('/', 47), ('N', 0x85), ('_', 0xA0), ('L', 0x2028),
   ('P', 0x2029)]

/-- How many hexadecimal digits follow a letter after a backslash. -/
def codeLength? (c : Char) : Option Nat :=
  if c = 'x' then some 2 else if c = 'u' then some 4 else if c = 'U' then some 8 else none

/-- The value of a hexadecimal digit. -/
def hexValue? (c : Char) : Option Nat :=
  let n := c.toNat
  if 48 ≤ n ∧ n ≤ 57 then some (n - 48)
  else if 65 ≤ n ∧ n ≤ 70 then some (n - 55)
  else if 97 ≤ n ∧ n ≤ 102 then some (n - 87)
  else none

/-- The number that hexadecimal digits write, if all are digits. -/
def hexNumber? (cs : List Char) : Option Nat :=
  cs.foldlM (fun n c => (hexValue? c).map (n * 16 + ·)) 0

/-- The character of a code; codes beyond the last character cannot be made. -/
def charOfCode (code : Nat) : Reading Char :=
  if code < 0x110000 then .ok (if (0xD800 ≤ code ∧ code < 0xE000) then Char.ofNat 0xFFFD
    else Char.ofNat code)
  else if code < 0x80000000 then
    .error (.unmakable (.wrongValue "chr() arg not in range(0x110000)"))
  else .error (.unmakable (.tooLarge "Python int too large to convert to C int"))

/-- The line ends from here, with blanks around them; a document marker among them is an error. -/
def quotedBreaks : Nat → Cursor → Reading (List Char × Cursor)
  | 0, _ => malformed
  | fuel + 1, c =>
    if c.atDocumentMarker then malformed
    else
      let c := c.skipWhile fun ch => ch = ' ' || ch = '\t'
      if isBreak c.here then do
        let (line, c) := c.lineBreak
        let (more, c) ← quotedBreaks fuel c
        return (line ++ more, c)
      else return ([], c)

/-- The blanks from here as they stand in a quoted text. -/
def quotedSpaces (fuel : Nat) (c : Cursor) : Reading (List Char × Cursor) :=
  let (blanks, c) := c.takeWhile fun ch => ch = ' ' || ch = '\t'
  if c.rest.isEmpty then malformed
  else if isBreak c.here then do
    let (line, c) := c.lineBreak
    let (breaks, c) ← quotedBreaks fuel c
    let first := if line ≠ ['\n'] then line else if breaks.isEmpty then [' '] else []
    return (first ++ breaks, c)
  else return (blanks, c)

/-- The characters from here up to a blank or the closing quote. -/
def quotedWord (double : Bool) : Nat → Cursor → Reading (List Char × Cursor)
  | 0, _ => malformed
  | fuel + 1, c =>
    let (word, c) := c.takeWhile fun ch =>
      !(ch = '\'' || ch = '"' || ch = '\\' || isGapOrEnd ch)
    let ch := c.here
    let goOn (piece : List Char) (c : Cursor) : Reading (List Char × Cursor) := do
      let (more, c) ← quotedWord double fuel c
      return (word ++ piece ++ more, c)
    if !double && ch = '\'' && c.peek 1 = '\'' then goOn ['\''] (c.skip 2)
    else if (double && ch = '\'') || (!double && (ch = '"' || ch = '\\')) then goOn [ch] c.next
    else if double && ch = '\\' then
      let c := c.next
      let ch := c.here
      match escapes.find? (·.1 == ch) with
      | some (_, code) => goOn [Char.ofNat code] c.next
      | none =>
        match codeLength? ch with
        | some length =>
          let c := c.next
          let digits := c.rest.take length
          if digits.length < length then malformed
          else
            match hexNumber? digits with
            | none => malformed
            | some code => do
              let ch ← charOfCode code
              goOn [ch] (c.skip length)
        | none =>
          if isBreak ch then do
            let (_, c) := c.lineBreak
            let (breaks, c) ← quotedBreaks (fuel + 1) c
            goOn breaks c
          else malformed
    else return (word, c)

/-- The rest of a quoted text, from a blank or the closing quote. -/
def quotedRest (double : Bool) (quote : Char) : Nat → Cursor → Reading (List Char × Cursor)
  | 0, _ => malformed
  | fuel + 1, c =>
    if c.here = quote then return ([], c.next)
    else do
      let (spaces, c) ← quotedSpaces (fuel + 1) c
      let (word, c) ← quotedWord double (fuel + 1) c
      let (more, c) ← quotedRest double quote fuel c
      return (spaces ++ word ++ more, c)

/-- A quoted text, from its opening quote. -/
def quotedText (c : Cursor) : Reading (List Char × Cursor) := do
  let quote := c.here
  let double := quote = '"'
  let fuel := c.rest.length + 1
  let (word, c) ← quotedWord double fuel c.next
  let (more, c) ← quotedRest double quote fuel c
  return (word ++ more, c)

/-! ### Plain texts -/

/-- The blank lines from here; none if a document marker stands at the start of a line. -/
def plainBreaks : Nat → Cursor → Option (List Char) × Cursor
  | 0, c => (some [], c)
  | fuel + 1, c =>
    let c := c.skipWhile (· = ' ')
    if isBreak c.here then
      let (line, c) := c.lineBreak
      if c.atDocumentMarker then (none, c)
      else
        let (more, c) := plainBreaks fuel c
        (more.map (line ++ ·), c)
    else (some [], c)

/-- The blanks from here as they stand inside a plain text, nothing if the text ends, and whether a
line ended. -/
def plainSpaces (c : Cursor) : List Char × Cursor × Bool :=
  let (blanks, c) := c.takeWhile (· = ' ')
  if isBreak c.here then
    let (line, c) := c.lineBreak
    if c.atDocumentMarker then ([], c, true)
    else
      match plainBreaks (c.rest.length + 1) c with
      | (none, c) => ([], c, true)
      | (some breaks, c) =>
        let first := if line ≠ ['\n'] then line else if breaks.isEmpty then [' '] else []
        (first ++ breaks, c, true)
  else (blanks, c, false)

/-- How many characters of a plain text stand here before a blank or an indicator. -/
def plainLength (inFlow : Bool) : List Char → Nat
  | [] => 0
  | ch :: rest =>
    let next := rest.headD '\x00'
    let ends := isGapOrEnd ch
      || (ch = ':' && (isGapOrEnd next || (inFlow && [',', '[', ']', '{', '}'].contains next)))
      || (inFlow && [',', '?', '[', ']', '{', '}'].contains ch)
    if ends then 0 else plainLength inFlow rest + 1

/-- A plain text that must stand at least at column `indent` on its later lines. The last part says
whether a line ended after the last word. -/
def plainText (inFlow : Bool) (indent : Int) :
    Nat → List Char → Cursor → List Char × Cursor × Bool
  | 0, _, c => ([], c, false)
  | fuel + 1, spaces, c =>
    let length := if c.here = '#' then 0 else plainLength inFlow c.rest
    if length = 0 then ([], c, false)
    else
      let word := c.rest.take length
      let (gap, after, lineEnded) := plainSpaces (c.skip length)
      if gap.isEmpty || after.here = '#' || (!inFlow && (after.column : Int) < indent) then
        (spaces ++ word, after, lineEnded)
      else
        let (more, last, ended) := plainText inFlow indent fuel gap after
        (spaces ++ word ++ more, last, if more.isEmpty then lineEnded else ended)

/-! ### Block texts -/

/-- What happens to the line ends at the end of a block: one is kept, none, or all. -/
inductive Chomping where
  | clip
  | strip
  | keep
  deriving DecidableEq, Repr

/-- The chomping that an indicator asks for. -/
def chompingOf? (c : Char) : Option Chomping :=
  if c = '+' then some .keep else if c = '-' then some .strip else none

/-- The header of a block after its indicator: chomping and indentation, in either order. -/
def blockHeader (c : Cursor) : Reading (Chomping × Option Nat × Cursor) := do
  let indentation (c : Cursor) : Reading (Option Nat × Cursor) :=
    if c.here.isDigit then
      if c.here = '0' then malformed else .ok (some (c.here.toNat - 48), c.next)
    else .ok (none, c)
  let (chomping, indent, c) ←
    match chompingOf? c.here with
    | some chomping => do
      let (indent, c) ← indentation c.next
      pure (chomping, indent, c)
    | none => do
      let (indent, c) ← indentation c
      match indent, chompingOf? c.here with
      | some _, some chomping => pure (chomping, indent, c.next)
      | _, _ => pure (.clip, indent, c)
  if isSpaceOrEnd c.here then return (chomping, indent, c) else malformed

/-- On past the rest of a line that may hold nothing but a comment. -/
def emptyRest (c : Cursor) : Reading Cursor :=
  let c := c.skipWhile (· = ' ')
  let c := if c.here = '#' then c.skipWhile fun ch => !isBreakOrEnd ch else c
  if isBreakOrEnd c.here then .ok c.lineBreak.2 else malformed

/-- The blank lines from here and the greatest indentation among them. -/
def blockIndentation : Nat → Nat → Cursor → List Char × Nat × Cursor
  | 0, deepest, c => ([], deepest, c)
  | fuel + 1, deepest, c =>
    if c.here = ' ' then
      let c := c.next
      blockIndentation fuel (max deepest c.column) c
    else if isBreak c.here then
      let (line, c) := c.lineBreak
      let (more, deepest, c) := blockIndentation fuel deepest c
      (line ++ more, deepest, c)
    else ([], deepest, c)

/-- On past the spaces up to a column. -/
def skipIndent (indent : Nat) (c : Cursor) : Cursor :=
  let spaces := (c.lookWhile (· = ' ')).length
  c.skip (min spaces (indent - c.column))

/-- The blank lines from here, and the indentation of the line after them. -/
def blockBreaks (indent : Nat) : Nat → Cursor → List Char × Cursor
  | 0, c => ([], c)
  | fuel + 1, c =>
    let c := skipIndent indent c
    if isBreak c.here then
      let (line, c) := c.lineBreak
      let (more, c) := blockBreaks indent fuel c
      (line ++ more, c)
    else ([], c)

/-- The lines of a block at column `indent`: the text, the line end after its last line and the
blank lines after that. -/
def blockLines (folded : Bool) (indent : Nat) :
    Nat → List Char → Cursor → List Char × List Char × List Char × Cursor
  | 0, breaks, c => ([], [], breaks, c)
  | fuel + 1, breaks, c =>
    let flush := !(c.here = ' ' || c.here = '\t')
    let (line, c) := c.takeWhile fun ch => !isBreakOrEnd ch
    let (lineEnd, c) := c.lineBreak
    let (after, c) := blockBreaks indent (c.rest.length + 1) c
    let start := breaks ++ line
    if c.column = indent ∧ ¬c.rest.isEmpty then
      let folds := folded && lineEnd = ['\n'] && flush && !(c.here = ' ' || c.here = '\t')
      let joint := if folds then (if after.isEmpty then [' '] else []) else lineEnd
      let (more, lastEnd, lastBreaks, c) := blockLines folded indent fuel after c
      (start ++ joint ++ more, lastEnd, lastBreaks, c)
    else (start, lineEnd, after, c)

/-- A literal or folded block, from its indicator, inside a collection at column `parent`. -/
def blockText (folded : Bool) (parent : Int) (c : Cursor) : Reading (List Char × Cursor) := do
  let (chomping, increment, c) ← blockHeader c.next
  let c ← emptyRest c
  let least := (max 1 (parent + 1)).toNat
  let fuel := c.rest.length + 1
  let (breaks, indent, c) :=
    match increment with
    | none =>
      let (breaks, deepest, c) := blockIndentation fuel 0 c
      (breaks, max least deepest, c)
    | some n =>
      let indent := least + n - 1
      let (breaks, c) := blockBreaks indent fuel c
      (breaks, indent, c)
  let (text, lineEnd, after, c) :=
    if c.column = indent ∧ ¬c.rest.isEmpty then blockLines folded indent fuel breaks c
    else ([], [], breaks, c)
  let tail :=
    match chomping with
    | .strip => []
    | .clip => lineEnd
    | .keep => lineEnd ++ after
  return (text ++ tail, c)

end Lockable.Yaml
