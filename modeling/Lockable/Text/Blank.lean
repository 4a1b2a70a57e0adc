/-!
# Blank characters

The white space of Unicode, and what is cut along it: `strip` takes the blanks off both ends of a
text, `words` is the text **between** them.
-/

namespace Lockable.Text

/-- The white space characters outside ASCII. -/
def blankCodes : List Nat :=
  [0x85, 0xA0, 0x1680, 0x2000, 0x2001, 0x2002, 0x2003, 0x2004, 0x2005, 0x2006, 0x2007, 0x2008,
   0x2009, 0x200A, 0x2028, 0x2029, 0x202F, 0x205F, 0x3000]

/-- Whether the character is white space: the space, the tab and line controls, the four
information separators and the blanks of Unicode. -/
def isBlank (c : Char) : Bool :=
  let n := c.toNat
  n == 32 || (9 ≤ n && n ≤ 13) || (28 ≤ n && n ≤ 31) || (128 ≤ n && blankCodes.contains n)

/-- The characters without those at the end for which `p` holds. -/
def dropEndWhile (p : Char → Bool) (cs : List Char) : List Char :=
  (cs.reverse.dropWhile p).reverse

/-- The characters without those at either end for which `p` holds. -/
def trimWhile (p : Char → Bool) (cs : List Char) : List Char :=
  dropEndWhile p (cs.dropWhile p)

/-- The text without the blanks at its ends. -/
def strip (s : String) : String := String.ofList (trimWhile isBlank s.toList)

/-- Adds one more character to the pieces already cut off: a separator starts a new piece. -/
def splitStep (separator : Char → Bool) (c : Char) : List (List Char) → List (List Char)
  | [] => if separator c then [[], []] else [[c]]
  | piece :: pieces => if separator c then [] :: piece :: pieces else (c :: piece) :: pieces

/-- The pieces between the characters for which `separator` holds, empty ones included; there is
always at least one. -/
def splitOn (separator : Char → Bool) (cs : List Char) : List (List Char) :=
  cs.foldr (splitStep separator) [[]]

/-- The pieces of a text between its blanks, without empty ones. -/
def words (s : String) : List String :=
  ((splitOn isBlank s.toList).filter (!·.isEmpty)).map String.ofList

end Lockable.Text
