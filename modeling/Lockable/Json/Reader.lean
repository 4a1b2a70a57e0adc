import Lockable.Json.Writer
import Lockable.Text.Half

/-!
# Reading JSON

`Json.read` reads one value and nothing after it. What it accepts beyond the standard are the words
`NaN`, `Infinity` and `-Infinity`; a repeated key takes its last value. What it refuses it refuses
with a **cause and a place**, the place being how many characters were still unread, from which
`Json.Fault.message` counts lines and columns. An integer with too many digits is refused as well,
without a place.

An escape may write half a pair, which is read as the caller tells (see `Half`).
-/

namespace Lockable.Json

/-- Why a text is no JSON. -/
inductive Cause where
  | noValue
  | noKey
  | noColon
  | noComma
  | unterminated
  | controlCharacter
  | badEscape
  | badCodeEscape
  | tooLong (digits : Nat)
  | extraData
  deriving DecidableEq, Repr

/-- A cause with its place: the number of characters from there to the end. -/
structure Fault where
  cause : Cause
  remaining : Nat
  deriving DecidableEq, Repr

/-- The words for a cause. -/
def Cause.text : Cause → String
  | .noValue => "Expecting value"
  | .noKey => "Expecting property name enclosed in double quotes"
  | .noColon => "Expecting ':' delimiter"
  | .noComma => "Expecting ',' delimiter"
  | .unterminated => "Unterminated string starting at"
  | .controlCharacter => "Invalid control character at"
  | .badEscape => "Invalid \\escape"
  | .badCodeEscape => "Invalid \\uXXXX escape"
  | .tooLong digits => tooManyDigits digits
  | .extraData => "Extra data"

/-- The words for a fault in a text: its cause, line, column and offset. -/
def Fault.message (text : List Char) (f : Fault) : String :=
  let offset := text.length - f.remaining
  let before := text.take offset
  let line := before.count '\n' + 1
  let column := (before.reverse.takeWhile (· ≠ '\n')).length + 1
  s!"{f.cause.text}: line {line} column {column} (char {offset})"

/-- Whether the character may stand between the tokens of JSON. -/
def isSpace (c : Char) : Bool := c = ' ' || c = '\t' || c = '\n' || c = '\r'

/-- The text after the spaces in front of it. -/
def skip (cs : List Char) : List Char := cs.dropWhile isSpace

/-- The text after a word that it begins with. -/
def afterWord? : List Char → List Char → Option (List Char)
  | [], rest => some rest
  | w :: ws, c :: cs => if w = c then afterWord? ws cs else none
  | _ :: _, [] => none

/-! ### Strings -/

/-- The value of a hexadecimal digit. -/
def hexValue? (c : Char) : Option Nat :=
  let n := c.toNat
  if 48 ≤ n ∧ n ≤ 57 then some (n - 48)
  else if 97 ≤ n ∧ n ≤ 102 then some (n - 87)
  else if 65 ≤ n ∧ n ≤ 70 then some (n - 55)
  else none

/-- The code written as four hexadecimal digits. -/
def fourHex? : List Char → Option (Nat × List Char)
  | a :: b :: c :: d :: rest => do
    return ((((← hexValue? a) * 16 + (← hexValue? b)) * 16 + (← hexValue? c)) * 16
      + (← hexValue? d), rest)
  | _ => none

/-- The character that a letter after the backslash stands for. -/
def escapeOf? (c : Char) : Option Char :=
  if c = '"' ∨ c = '\\' ∨ c = '/' then some c
  else if c = 'b' then some (Char.ofNat 8)
  else if c = 'f' then some (Char.ofNat 12)
  else if c = 'n' then some '\n'
  else if c = 'r' then some '\r'
  else if c = 't' then some '\t'
  else none

/-- The character after `\u`, which may take a second escape as the other half of a pair, and the
rest. -/
def codeEscape (half : Nat → Char) (cs : List Char) : Except Fault (Char × List Char) :=
  if (cs.drop 4).isEmpty then .error ⟨.badCodeEscape, cs.length + 1⟩
  else
    match fourHex? cs with
    | none => .error ⟨.badCodeEscape, cs.length + 1⟩
    | some (code, rest) =>
      if Half.isHigh code then
        match rest with
        | '\\' :: 'u' :: more =>
          if (more.drop 4).isEmpty then .ok (half code, rest)
          else
            match fourHex? more with
            | none => .error ⟨.badCodeEscape, more.length + 1⟩
            | some (low, after) =>
              if Half.isLow low then .ok (Half.join code low, after)
              else .ok (half code, rest)
        | _ => .ok (half code, rest)
      else .ok (Half.charOf half code, rest)

/-- The characters of a string after its opening quote, and the rest after the closing one. `start`
is the text from the opening quote on. -/
def readString (half : Nat → Char) :
    Nat → List Char → List Char → Except Fault (List Char × List Char)
  | 0, start, _ => .error ⟨.unterminated, start.length⟩
  | _ + 1, start, [] => .error ⟨.unterminated, start.length⟩
  | fuel + 1, start, c :: cs =>
    if c = '"' then .ok ([], cs)
    else if c = '\\' then
      match cs with
      | [] => .error ⟨.unterminated, start.length⟩
      | 'u' :: rest => do
        let (code, rest) ← codeEscape half rest
        let (more, rest) ← readString half fuel start rest
        return (code :: more, rest)
      | e :: rest =>
        match escapeOf? e with
        | none => .error ⟨.badEscape, rest.length + 2⟩
        | some code => do
          let (more, rest) ← readString half fuel start rest
          return (code :: more, rest)
    else if c.toNat < 32 then .error ⟨.controlCharacter, cs.length + 1⟩
    else do
      let (more, rest) ← readString half fuel start cs
      return (c :: more, rest)

/-! ### Numbers -/

/-- The natural number that decimal digits write. -/
def digitsValue (ds : List Char) : Nat := ds.foldl (fun n d => n * 10 + (d.toNat - 48)) 0

/-- The digits in front of a text and the rest. -/
def takeDigits (cs : List Char) : List Char × List Char :=
  (cs.takeWhile Char.isDigit, cs.dropWhile Char.isDigit)

/-- The digits of a fraction, after a point, and the rest; a point without digits is left. -/
def takeFraction : List Char → Option (List Char) × List Char
  | '.' :: rest =>
    match takeDigits rest with
    | ([], _) => (none, '.' :: rest)
    | (ds, after) => (some ds, after)
  | cs => (none, cs)

/-- The exponent, after its mark, and the rest; a mark without digits is left. -/
def takeExponent (cs : List Char) : Option Int × List Char :=
  match cs with
  | c :: rest =>
    if c = 'e' ∨ c = 'E' then
      let (negative, body) :=
        match rest with
        | '-' :: body => (true, body)
        | '+' :: body => (false, body)
        | body => (false, body)
      match takeDigits body with
      | ([], _) => (none, cs)
      | (ds, after) =>
        (some (if negative then -(digitsValue ds : Int) else (digitsValue ds : Int)), after)
    else (none, cs)
  | [] => (none, cs)

/-- The integer that digits write, if they are not too many. -/
def readInteger (negative : Bool) (ds : List Char) : Except Nat Json :=
  if digitLimit < ds.length then .error ds.length
  else
    let n : Int := digitsValue ds
    .ok (.int (if negative then -n else n))

/-- A number and the rest, if there is one. With a fraction or an exponent it is a double-precision
number, else an integer, which may have too many digits; a leading zero stands alone. -/
def readNumber (cs : List Char) : Option (Except Nat Json × List Char) :=
  let (negative, body) :=
    match cs with
    | '-' :: body => (true, body)
    | body => (false, body)
  let (whole, rest) :=
    match body with
    | '0' :: rest => (['0'], rest)
    | _ => takeDigits body
  if whole.isEmpty then none
  else
    let (fraction, rest) := takeFraction rest
    let (exponent, rest) := takeExponent rest
    match fraction, exponent with
    | none, none => some (readInteger negative whole, rest)
    | _, _ =>
      let places := fraction.getD []
      let d : Decimal :=
        ⟨negative, digitsValue (whole ++ places), exponent.getD 0 - (places.length : Int)⟩
      some (.ok (.float (Binary64.ofDecimal d)), rest)

/-! ### Values -/

/-- The words of JSON and what they stand for. -/
def wordValues : List (String × Json) :=
  [("null", .null), ("true", .bool true), ("false", .bool false), ("NaN", .float .nan),
   ("Infinity", .float (.infinite false)), ("-Infinity", .float (.infinite true))]

/-- The word in front of a text, as its value, and the rest. -/
def readWord? (cs : List Char) : Option (Json × List Char) :=
  wordValues.findSome? fun (w, v) => (afterWord? w.toList cs).map (v, ·)

mutual

/-- One value and the rest; `fuel` bounds the nesting and the number of items. -/
def readValue (half : Nat → Char) : Nat → List Char → Except Fault (Json × List Char)
  | 0, cs => .error ⟨.noValue, cs.length⟩
  | fuel + 1, cs =>
    match cs with
    | '"' :: rest => do
      let (s, rest) ← readString half fuel cs rest
      return (.text (String.ofList s), rest)
    | '[' :: rest =>
      match skip rest with
      | ']' :: after => .ok (.list [], after)
      | inner => do
        let (items, rest) ← readItems half fuel inner
        return (.list items, rest)
    | '{' :: rest =>
      match skip rest with
      | '}' :: after => .ok (.object [], after)
      | inner => do
        let (members, rest) ← readMembers half fuel inner
        return (ofMembers members, rest)
    | _ =>
      match readWord? cs with
      | some found => .ok found
      | none =>
        match readNumber cs with
        | some (.ok j, rest) => .ok (j, rest)
        | some (.error digits, _) => .error ⟨.tooLong digits, cs.length⟩
        | none => .error ⟨.noValue, cs.length⟩

/-- The items of a list up to its bracket, at least one. -/
def readItems (half : Nat → Char) : Nat → List Char → Except Fault (List Json × List Char)
  | 0, cs => .error ⟨.noValue, cs.length⟩
  | fuel + 1, cs => do
    let (item, rest) ← readValue half fuel cs
    match skip rest with
    | ']' :: after => return ([item], after)
    | ',' :: after =>
      let (items, rest) ← readItems half fuel (skip after)
      return (item :: items, rest)
    | rest => .error ⟨.noComma, rest.length⟩

/-- The members of an object up to its brace, at least one. -/
def readMembers (half : Nat → Char) :
    Nat → List Char → Except Fault (List (String × Json) × List Char)
  | 0, cs => .error ⟨.noKey, cs.length⟩
  | fuel + 1, cs =>
    match cs with
    | '"' :: rest => do
      let (key, rest) ← readString half fuel cs rest
      match skip rest with
      | ':' :: after =>
        let (value, rest) ← readValue half fuel (skip after)
        match skip rest with
        | '}' :: after => return ([(String.ofList key, value)], after)
        | ',' :: after =>
          let (members, rest) ← readMembers half fuel (skip after)
          return ((String.ofList key, value) :: members, rest)
        | rest => .error ⟨.noComma, rest.length⟩
      | rest => .error ⟨.noColon, rest.length⟩
    | _ => .error ⟨.noKey, cs.length⟩

end

/-- The one value that a text holds. -/
def readChars (half : Nat → Char) (cs : List Char) : Except Fault Json := do
  let (value, rest) ← readValue half (2 * cs.length + 2) (skip cs)
  match skip rest with
  | [] => return value
  | rest => .error ⟨.extraData, rest.length⟩

/-- The one value that a text holds. -/
def read (s : String) : Except Fault Json := readChars Half.lost s.toList

end Lockable.Json
