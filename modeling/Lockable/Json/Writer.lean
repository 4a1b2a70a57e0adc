import Lockable.Json.Display

/-!
# Writing JSON

`Json.write` is the text of a value on one line. Strings escape what JSON must escape and nothing
else, so text outside ASCII stays readable and no control character below the space is ever written
raw. A number with a point or an exponent is the shortest that reads back.
-/

namespace Lockable.Json

/-- One character inside a JSON string. -/
def escapeChar (c : Char) : List Char :=
  if c = '"' then ['\\', '"']
  else if c = '\\' then ['\\', '\\']
  else if c = '\n' then ['\\', 'n']
  else if c = '\r' then ['\\', 'r']
  else if c = '\t' then ['\\', 't']
  else if c.toNat = 12 then ['\\', 'f']
  else if c.toNat = 8 then ['\\', 'b']
  else if c.toNat < 32 then '\\' :: 'u' :: Text.hexDigits 4 c.toNat
  else [c]

/-- A text between JSON quotes. -/
def writeText (s : String) : List Char := '"' :: s.toList.flatMap escapeChar ++ ['"']

/-- A double-precision number; the three that JSON has no numeral for are written as words. -/
def writeFloat : Binary64 → List Char
  | .nan => "NaN".toList
  | .infinite n => if n then "-Infinity".toList else "Infinity".toList
  | x => x.text.toList

mutual

/-- The characters of a value. -/
def writeChars : Json → List Char
  | .null => "null".toList
  | .bool b => if b then "true".toList else "false".toList
  | .int n => (intText n).toList
  | .float x => writeFloat x
  | .text s => writeText s
  | .list [] => ['[', ']']
  | .list (j :: rest) => '[' :: writeChars j ++ writeItems rest
  | .object [] => ['{', '}']
  | .object ((k, v) :: rest) =>
    '{' :: writeText k ++ ':' :: ' ' :: writeChars v ++ writeMembers rest

/-- The items after the first, with the bracket that closes the list. -/
def writeItems : List Json → List Char
  | [] => [']']
  | j :: rest => ',' :: ' ' :: writeChars j ++ writeItems rest

/-- The members after the first, with the brace that closes the object. -/
def writeMembers : List (String × Json) → List Char
  | [] => ['}']
  | (k, v) :: rest => ',' :: ' ' :: writeText k ++ ':' :: ' ' :: writeChars v ++ writeMembers rest

end

/-- The text of a value on one line. -/
def write (j : Json) : String := String.ofList (writeChars j)

/-! ### Without spaces -/

mutual

/-- The characters of a value without spaces between them. -/
def compactChars : Json → List Char
  | .list [] => ['[', ']']
  | .list (j :: rest) => '[' :: compactChars j ++ compactItems rest
  | .object [] => ['\x7b', '\x7d']
  | .object ((k, v) :: rest) =>
    '\x7b' :: writeText k ++ ':' :: compactChars v ++ compactMembers rest
  | j => writeChars j

/-- The items after the first, with the bracket that closes the list. -/
def compactItems : List Json → List Char
  | [] => [']']
  | j :: rest => ',' :: compactChars j ++ compactItems rest

/-- The members after the first, with the brace that closes the object. -/
def compactMembers : List (String × Json) → List Char
  | [] => ['\x7d']
  | (k, v) :: rest => ',' :: writeText k ++ ':' :: compactChars v ++ compactMembers rest

end

/-- The text of a value without spaces between its tokens, as servers send it. -/
def writeCompact (j : Json) : String := String.ofList (compactChars j)

end Lockable.Json
