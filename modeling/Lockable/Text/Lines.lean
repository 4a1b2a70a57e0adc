/-!
# Lines

Where the lines of a text end, and a text written with **one** kind of line end throughout: the
first of carriage return with line feed, line feed, and carriage return that occurs in it.
-/

namespace Lockable.Text

/-- The characters that end a line beside the carriage return and the line feed. -/
def rareLineEnds : List Nat := [0x0B, 0x0C, 0x1C, 0x1D, 0x1E, 0x85, 0x2028, 0x2029]

/-- Whether a line ends at the character. -/
def isLineEnd (c : Char) : Bool := c = '\n' || c = '\r' || rareLineEnds.contains c.toNat

/-- The lines of a text without their ends, after the characters of a line that has begun. Nothing
follows the last line end. -/
def linesFrom : List Char → List Char → List (List Char)
  | begun, [] => if begun.isEmpty then [] else [begun.reverse]
  | begun, '\r' :: '\n' :: rest => begun.reverse :: linesFrom [] rest
  | begun, c :: rest =>
    if isLineEnd c then begun.reverse :: linesFrom [] rest else linesFrom (c :: begun) rest

/-- The lines of a text without their ends. -/
def lines (cs : List Char) : List (List Char) := linesFrom [] cs

/-- Whether a carriage return with a line feed occurs. -/
def hasReturnFeed : List Char → Bool
  | '\r' :: '\n' :: _ => true
  | _ :: rest => hasReturnFeed rest
  | [] => false

/-- The line end of a text. -/
def lineEnd (cs : List Char) : List Char :=
  if hasReturnFeed cs then ['\r', '\n']
  else if cs.contains '\n' then ['\n']
  else if cs.contains '\r' then ['\r']
  else ['\n']

/-- The text with all its lines ended alike. The end of the last line is kept only if it is one of
the three. -/
def evenLines (s : String) : String :=
  let cs := s.toList
  let endsLine := match cs.getLast? with
    | some c => c = '\n' || c = '\r'
    | none => true
  let all := lines cs ++ (if endsLine then [[]] else [])
  String.ofList ((lineEnd cs).intercalate all)

end Lockable.Text
