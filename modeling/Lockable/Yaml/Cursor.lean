/-!
# A place in a YAML text

A `Cursor` is what is left of a text together with the line and column it stands at. Past the end
it shows the null character, which no YAML text holds.
-/

namespace Lockable.Yaml

/-- A place in a text: what is left, how many characters came before, line and column. -/
structure Cursor where
  rest : List Char
  index : Nat := 0
  line : Nat := 0
  column : Nat := 0
  deriving Inhabited

/-- Whether the character ends a line. -/
def isBreak (c : Char) : Bool :=
  c = '\n' || c = '\r' || c.toNat = 0x85 || c.toNat = 0x2028 || c.toNat = 0x2029

/-- Whether the character is the end of the text or ends a line. -/
def isBreakOrEnd (c : Char) : Bool := isBreak c || c.toNat = 0

/-- Whether the character ends a word: a space, a line end or the end of the text. -/
def isSpaceOrEnd (c : Char) : Bool := isBreakOrEnd c || c = ' '

/-- Whether the character ends a word, tabs included. -/
def isGapOrEnd (c : Char) : Bool := isSpaceOrEnd c || c = '\t'

namespace Cursor

/-- The character `k` places ahead. -/
def peek (c : Cursor) (k : Nat) : Char := (c.rest.drop k).headD '\x00'

/-- The character here. -/
def here (c : Cursor) : Char := c.rest.headD '\x00'

/-- One character on. A carriage return before a line feed does not end the line yet, and a byte
order mark has no width. -/
def next (c : Cursor) : Cursor :=
  match c.rest with
  | [] => c
  | ch :: rest =>
    if isBreak ch && !(ch = '\r' && rest.head? = some '\n') then
      ⟨rest, c.index + 1, c.line + 1, 0⟩
    else ⟨rest, c.index + 1, c.line, if ch.toNat = 0xFEFF then c.column else c.column + 1⟩

/-- Several characters on. -/
def skip : Nat → Cursor → Cursor
  | 0, c => c
  | n + 1, c => skip n c.next

/-- The characters from here for which `p` holds. -/
def lookWhile (c : Cursor) (p : Char → Bool) : List Char := c.rest.takeWhile p

/-- Takes the characters from here for which `p` holds. -/
def takeWhile (c : Cursor) (p : Char → Bool) : List Char × Cursor :=
  let text := c.lookWhile p
  (text, c.skip text.length)

/-- On past the characters for which `p` holds. -/
def skipWhile (c : Cursor) (p : Char → Bool) : Cursor := (c.takeWhile p).2

/-- On past a line end, if there is one here; what it stands for in a text. -/
def lineBreak (c : Cursor) : List Char × Cursor :=
  let ch := c.here
  if ch = '\r' && c.peek 1 = '\n' then (['\n'], c.skip 2)
  else if ch = '\n' || ch = '\r' || ch.toNat = 0x85 then (['\n'], c.next)
  else if ch.toNat = 0x2028 || ch.toNat = 0x2029 then ([ch], c.next)
  else ([], c)

/-- Whether a marker of three characters stands here, as `---` and `...` do. -/
def atMarker (c : Cursor) (mark : Char) : Bool :=
  c.here = mark && c.peek 1 = mark && c.peek 2 = mark && isGapOrEnd (c.peek 3)

/-- Whether the start or the end of a document stands here. -/
def atDocumentMarker (c : Cursor) : Bool := c.atMarker '-' || c.atMarker '.'

end Cursor

end Lockable.Yaml
