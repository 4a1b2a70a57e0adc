import Lockable.Yaml.Text

/-!
# Tokens of YAML

`Token.scan` cuts a text into tokens. Collections written by indentation get tokens of their own
where they begin and end. That a plain word was a **key** is seen only at the colon after it, so
every place where a key may begin is remembered, and the token for the key is put there afterwards;
a key stands on one line and is at most 1024 characters long.
-/

namespace Lockable.Yaml

/-- What a directive says: which version of YAML is meant, what a tag handle stands for, or
something else, which is ignored. -/
inductive Directive where
  | version (major : Nat)
  | handle (handle stem : String)
  | other
  deriving DecidableEq, Repr

/-- A token. -/
inductive Token where
  | directive (d : Directive)
  | documentStart
  | documentEnd
  | blockSequenceStart
  | blockMappingStart
  | blockEnd
  | flowSequenceStart
  | flowSequenceEnd
  | flowMappingStart
  | flowMappingEnd
  | blockEntry
  | flowEntry
  | key
  | value
  | alias (name : String)
  | anchor (name : String)
  | tag (handle : Option String) (suffix : String)
  | scalar (text : String) (plain : Bool)
  deriving DecidableEq, Repr

/-- A place where a key may have begun: before which token, where in the text, and whether nothing
but a key can stand there. -/
structure KeyPlace where
  token : Nat
  index : Nat
  line : Nat
  column : Nat
  required : Bool

/-- The state of the scanner: where it is, the tokens so far, how deep in brackets it is, the
columns of the open blocks, whether a key may begin here, and the places of possible keys by depth
of brackets. -/
structure Scan where
  cursor : Cursor
  tokens : Array Token := #[]
  depth : Int := 0
  indent : Int := -1
  outer : List Int := []
  keyAllowed : Bool := true
  keys : List (Int × KeyPlace) := []

namespace Scan

/-- Adds a token. -/
def push (s : Scan) (t : Token) : Scan := { s with tokens := s.tokens.push t }

/-- Puts a token before the token number `n`. -/
def insertAt (s : Scan) (n : Nat) (t : Token) : Scan :=
  { s with tokens := s.tokens.extract 0 n ++ #[t] ++ s.tokens.extract n s.tokens.size }

/-- Whether the scanner is inside brackets. -/
def inFlow (s : Scan) : Bool := s.depth ≠ 0

/-- Says whether a key may begin here. -/
def allowKey (allowed : Bool) (s : Scan) : Scan := { s with keyAllowed := allowed }

/-- Moves on. -/
def moveTo (s : Scan) (cursor : Cursor) : Scan := { s with cursor }

/-! ### Indentation -/

/-- Closes the blocks that are deeper than `column`. -/
def unwind (column : Int) : List Int → Scan → Scan
  | [], s => s
  | parent :: rest, s =>
    if s.indent > column then
      unwind column rest { s.push .blockEnd with indent := parent, outer := rest }
    else s

/-- Closes the blocks that are deeper than `column`; inside brackets indentation means nothing. -/
def unwindTo (s : Scan) (column : Int) : Scan :=
  if s.inFlow then s else unwind column s.outer s

/-- Opens a block at `column` if it is deeper than the open ones; whether it is. -/
def deepen (s : Scan) (column : Int) : Scan × Bool :=
  if s.indent < column then ({ s with indent := column, outer := s.indent :: s.outer }, true)
  else (s, false)

/-! ### Keys -/

/-- The place of a possible key at this depth. -/
def keyHere? (s : Scan) : Option KeyPlace := (s.keys.find? fun k => k.1 = s.depth).map (·.2)

/-- Gives up the places of keys that are on an earlier line or too far back. -/
def dropStale (s : Scan) : Reading Scan :=
  let stale (k : Int × KeyPlace) : Bool :=
    k.2.line ≠ s.cursor.line || s.cursor.index - k.2.index > 1024
  if s.keys.any fun k => stale k && k.2.required then malformed
  else .ok { s with keys := s.keys.filter fun k => !stale k }

/-- Gives up the place of a key at this depth. -/
def dropKey (s : Scan) : Reading Scan :=
  if s.keyHere?.any (·.required) then malformed
  else .ok { s with keys := s.keys.filter fun k => k.1 ≠ s.depth }

/-- Remembers that a key may begin here, if one may. -/
def noteKey (s : Scan) : Reading Scan :=
  if s.keyAllowed then do
    let required := !s.inFlow && s.indent = (s.cursor.column : Int)
    let s ← s.dropKey
    let c := s.cursor
    return { s with
      keys := (s.depth, ⟨s.tokens.size, c.index, c.line, c.column, required⟩) :: s.keys }
  else .ok s

/-! ### Gaps between tokens -/

/-- On past spaces, comments and line ends. A key may begin on a new line of a block. -/
def skipGap : Nat → Scan → Scan
  | 0, s => s
  | fuel + 1, s =>
    let c := s.cursor.skipWhile (· = ' ')
    let c := if c.here = '#' then c.skipWhile fun ch => !isBreakOrEnd ch else c
    if isBreak c.here then
      skipGap fuel { s with cursor := c.lineBreak.2, keyAllowed := s.keyAllowed || !s.inFlow }
    else { s with cursor := c }

/-! ### Names, tags and directives -/

/-- Whether the character may stand in an anchor, a directive or a tag handle. -/
def isNameChar (c : Char) : Bool := c.isAlphanum || c = '-' || c = '_'

/-- Whether the character may stand in the address of a tag. -/
def isAddressChar (c : Char) : Bool :=
  c.isAlphanum || "-;/?:@&=+$,_.!~*'()[]%".toList.contains c

/-- The octets of one escape after another. -/
def addressEscapes : Nat → Cursor → Reading (List UInt8 × Cursor)
  | 0, c => .ok ([], c)
  | fuel + 1, c =>
    if c.here = '%' then
      match hexValue? (c.peek 1), hexValue? (c.peek 2) with
      | some a, some b => do
        let (more, c) ← addressEscapes fuel (c.skip 3)
        return (UInt8.ofNat (a * 16 + b) :: more, c)
      | _, _ => malformed
    else .ok ([], c)

/-- The pieces of the address of a tag. -/
def addressPieces : Nat → Cursor → Reading (List Char × Cursor)
  | 0, c => .ok ([], c)
  | fuel + 1, c =>
    let (plain, c) := c.takeWhile fun ch => isAddressChar ch && ch ≠ '%'
    if c.here = '%' then do
      let (octets, c) ← addressEscapes (fuel + 1) c
      match Utf8.decode? octets with
      | none => malformed
      | some text =>
        let (more, c) ← addressPieces fuel c
        return (plain ++ text ++ more, c)
    else return (plain, c)

/-- The address of a tag, which is not empty. -/
def address (c : Cursor) : Reading (String × Cursor) := do
  let (text, after) ← addressPieces (c.rest.length + 1) c
  if after.index = c.index then malformed else return (String.ofList text, after)

/-- A tag handle: an exclamation mark, or a name between two. -/
def tagHandle (c : Cursor) : Reading (String × Cursor) :=
  if c.here ≠ '!' then malformed
  else if c.peek 1 = ' ' then .ok ("!", c.next)
  else
    let (name, after) := c.next.takeWhile isNameChar
    if after.here = '!' then .ok (String.ofList ('!' :: name ++ ['!']), after.next) else malformed

/-- A tag, from its exclamation mark. -/
def tag (c : Cursor) : Reading (Token × Cursor) := do
  let second := c.peek 1
  let (token, c) ←
    if second = '<' then do
      let (suffix, c) ← address (c.skip 2)
      if c.here = '>' then pure (Token.tag none suffix, c.next) else malformed
    else if isGapOrEnd second then pure (Token.tag none "!", c.next)
    else do
      let word := c.next.lookWhile fun ch => !isSpaceOrEnd ch
      let (handle, c) ← if word.contains '!' then tagHandle c else pure ("!", c.next)
      let (suffix, c) ← address c
      pure (Token.tag (some handle) suffix, c)
  if isSpaceOrEnd c.here then return (token, c) else malformed

/-- The name of an anchor or alias, from its indicator. -/
def anchorName (c : Cursor) : Reading (String × Cursor) :=
  let (name, c) := c.next.takeWhile isNameChar
  let ends := isGapOrEnd c.here || ['?', ':', ',', ']', '}', '%', '@', '`'].contains c.here
  if name.isEmpty || !ends then malformed else .ok (String.ofList name, c)

/-- A number in a directive. -/
def directiveNumber (c : Cursor) : Reading (Nat × Cursor) :=
  let (digits, c) := c.takeWhile Char.isDigit
  if digits.isEmpty then malformed
  else .ok (digits.foldl (fun n d => n * 10 + (d.toNat - 48)) 0, c)

/-- A directive, from its percent sign to the end of its line. -/
def directive (c : Cursor) : Reading (Directive × Cursor) := do
  let (name, c) := c.next.takeWhile isNameChar
  if name.isEmpty || !isSpaceOrEnd c.here then malformed
  else
    let (d, c) ←
      if name = "YAML".toList then do
        let (major, c) ← directiveNumber (c.skipWhile (· = ' '))
        if c.here ≠ '.' then malformed
        else
          let (_, c) ← directiveNumber c.next
          if isSpaceOrEnd c.here then pure (Directive.version major, c) else malformed
      else if name = "TAG".toList then do
        let (handle, c) ← tagHandle (c.skipWhile (· = ' '))
        if c.here ≠ ' ' then malformed
        else
          let (stem, c) ← address (c.skipWhile (· = ' '))
          if isSpaceOrEnd c.here then pure (Directive.handle handle stem, c) else malformed
      else pure (Directive.other, c.skipWhile fun ch => !isBreakOrEnd ch)
    return (d, ← emptyRest c)

/-! ### One token -/

/-- A directive or a document marker: it ends every block. -/
def marker (s : Scan) : Reading Scan := do
  let s := s.unwindTo (-1)
  let s ← s.dropKey
  return s.allowKey false

/-- An opening bracket, which may begin a key. -/
def openFlow (s : Scan) (t : Token) : Reading Scan := do
  let s ← s.noteKey
  return { s.push t with depth := s.depth + 1, keyAllowed := true, cursor := s.cursor.next }

/-- A closing bracket. -/
def closeFlow (s : Scan) (t : Token) : Reading Scan := do
  let s ← s.dropKey
  return { s.push t with depth := s.depth - 1, keyAllowed := false, cursor := s.cursor.next }

/-- The dash of a block sequence. -/
def blockEntry (s : Scan) : Reading Scan := do
  let s ←
    if s.inFlow then pure s
    else if s.keyAllowed then
      let (s, deeper) := s.deepen s.cursor.column
      pure (if deeper then s.push .blockSequenceStart else s)
    else malformed
  let s ← (s.allowKey true).dropKey
  return (s.push .blockEntry).moveTo s.cursor.next

/-- The question mark of an explicit key. -/
def explicitKey (s : Scan) : Reading Scan := do
  let s ←
    if s.inFlow then pure s
    else if s.keyAllowed then
      let (s, deeper) := s.deepen s.cursor.column
      pure (if deeper then s.push .blockMappingStart else s)
    else malformed
  let s ← (s.allowKey (!s.inFlow)).dropKey
  return (s.push .key).moveTo s.cursor.next

/-- The colon before a value. If a key may have begun on this line, it did. -/
def value (s : Scan) : Reading Scan := do
  let s ←
    match s.keyHere? with
    | some k =>
      let s := { s with keys := s.keys.filter fun e => e.1 ≠ s.depth }
      let s := s.insertAt k.token .key
      let s :=
        if s.inFlow then s
        else
          let (s, deeper) := s.deepen k.column
          if deeper then s.insertAt k.token .blockMappingStart else s
      pure (s.allowKey false)
    | none =>
      if s.inFlow then (s.allowKey false).dropKey
      else if s.keyAllowed then do
        let (s, deeper) := s.deepen s.cursor.column
        let s := if deeper then s.push .blockMappingStart else s
        (s.allowKey true).dropKey
      else malformed
  return (s.push .value).moveTo s.cursor.next

/-- A token that may begin a key and cannot be followed by one. -/
def keyed (s : Scan) (read : Cursor → Reading (Token × Cursor)) : Reading Scan := do
  let s ← s.noteKey
  let (t, c) ← read s.cursor
  return ((s.allowKey false).push t).moveTo c

/-- A block text. -/
def block (s : Scan) (folded : Bool) : Reading Scan := do
  let s ← (s.allowKey true).dropKey
  let (text, c) ← blockText folded s.indent s.cursor
  return (s.push (.scalar (String.ofList text) false)).moveTo c

/-- Whether a plain text may begin at the cursor. -/
def plainBegins (s : Scan) : Bool :=
  let c := s.cursor
  let ch := c.here
  !(isGapOrEnd ch || "-?:,[]\x7b\x7d#&*!|>'\"%@`".toList.contains ch)
    || (!isGapOrEnd (c.peek 1) && (ch = '-' || (!s.inFlow && (ch = '?' || ch = ':'))))

/-- A plain text. -/
def plain (s : Scan) : Reading Scan := do
  let s ← s.noteKey
  let c := s.cursor
  let (text, c, lineEnded) := plainText s.inFlow (s.indent + 1) (c.rest.length + 1) [] c
  return ((s.allowKey lineEnded).push (.scalar (String.ofList text) true)).moveTo c

/-- The next token, which begins at the cursor. -/
def token (s : Scan) : Reading Scan :=
  let c := s.cursor
  let ch := c.here
  let gapNext := isGapOrEnd (c.peek 1)
  if c.column = 0 ∧ ch = '%' then do
    let s ← s.marker
    let (d, c) ← directive s.cursor
    return (s.push (.directive d)).moveTo c
  else if c.column = 0 ∧ c.atMarker '-' then do
    let s ← s.marker
    return (s.push .documentStart).moveTo (c.skip 3)
  else if c.column = 0 ∧ c.atMarker '.' then do
    let s ← s.marker
    return (s.push .documentEnd).moveTo (c.skip 3)
  else if ch = '[' then s.openFlow .flowSequenceStart
  else if ch = '{' then s.openFlow .flowMappingStart
  else if ch = ']' then s.closeFlow .flowSequenceEnd
  else if ch = '}' then s.closeFlow .flowMappingEnd
  else if ch = ',' then do
    let s ← (s.allowKey true).dropKey
    return (s.push .flowEntry).moveTo s.cursor.next
  else if ch = '-' ∧ gapNext then s.blockEntry
  else if ch = '?' ∧ (s.inFlow ∨ gapNext) then s.explicitKey
  else if ch = ':' ∧ (s.inFlow ∨ gapNext) then s.value
  else if ch = '*' then
    s.keyed fun c => (anchorName c).map fun (name, c) => (.alias name, c)
  else if ch = '&' then
    s.keyed fun c => (anchorName c).map fun (name, c) => (.anchor name, c)
  else if ch = '!' then s.keyed tag
  else if ch = '|' ∧ !s.inFlow then s.block false
  else if ch = '>' ∧ !s.inFlow then s.block true
  else if ch = '\'' ∨ ch = '"' then
    s.keyed fun c => (quotedText c).map fun (text, c) => (.scalar (String.ofList text) false, c)
  else if s.plainBegins then s.plain
  else malformed

/-- The tokens from the cursor to the end of the text. -/
def run : Nat → Scan → Reading Scan
  | 0, _ => malformed
  | fuel + 1, s => do
    let s ← (skipGap (s.cursor.rest.length + 1) s).dropStale
    let s := s.unwindTo s.cursor.column
    if s.cursor.rest.isEmpty then
      let s := s.unwindTo (-1)
      s.dropKey
    else run fuel (← s.token)

end Scan

/-- Whether YAML allows the character at all. -/
def isAllowed (c : Char) : Bool :=
  let n := c.toNat
  n = 9 || n = 10 || n = 13 || (32 ≤ n && n ≤ 126) || n = 0x85 || (0xA0 ≤ n && n ≤ 0xD7FF)
    || (0xE000 ≤ n && n ≤ 0xFFFD) || 0x10000 ≤ n

/-- The tokens of a text. A byte order mark in front of it is skipped. -/
def Token.scan (text : List Char) : Reading (List Token) := do
  if text.all isAllowed then
    let start := match text with
      | c :: rest => if c.toNat = 0xFEFF then rest else text
      | [] => []
    let s ← Scan.run (start.length + 2) { cursor := { rest := start } }
    return s.tokens.toList
  else malformed

end Lockable.Yaml
