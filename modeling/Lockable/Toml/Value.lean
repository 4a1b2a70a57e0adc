import Lockable.Json.Reader
import Lockable.Number.Limit
import Lockable.Toml.Table

/-!
# Values of TOML

Keys, strings in their four notations, numbers, dates and times, arrays and inline tables. Every
reader takes what it can from the front of a text and returns the rest; `none` is a text that TOML
does not allow. What can hold an integer has a second way to fail: TOML allows one of any length,
but not every one can be made.
-/

namespace Lockable.Toml

/-- Why a text has no value. -/
inductive Refusal where
  | malformed
  /-- A decimal integer has too many digits. -/
  | tooLong (digits : Nat)
  deriving DecidableEq, Repr

/-- What comes of reading something that can hold an integer. -/
abbrev Reading (α : Type) : Type := Except Refusal α

/-- What TOML does not allow is malformed. -/
instance : MonadLift Option Reading where
  monadLift
    | some a => .ok a
    | none => .error .malformed

/-- Whether the character is a blank within a line. -/
def isBlank (c : Char) : Bool := c = ' ' || c = '\t'

/-- Whether the character is a control character other than the tab, which no string and no comment
may hold. -/
def isControl (c : Char) : Bool := (c.toNat < 32 && c ≠ '\t') || c.toNat = 127

/-- On past blanks. -/
def skipBlanks (cs : List Char) : List Char := cs.dropWhile isBlank

/-- The text after something it begins with. -/
def after? (start : String) (cs : List Char) : Option (List Char) := Json.afterWord? start.toList cs

/-- On past a comment, if one stands here. -/
def skipComment : List Char → Option (List Char)
  | '#' :: rest =>
    if (rest.takeWhile (· ≠ '\n')).any isControl then none else some (rest.dropWhile (· ≠ '\n'))
  | cs => some cs

/-- On past blanks, line ends and comments. -/
def skipSpace : Nat → List Char → Option (List Char)
  | 0, cs => some cs
  | fuel + 1, cs =>
    match cs.dropWhile fun c => isBlank c || c = '\n' with
    | '#' :: rest => do skipSpace fuel (← skipComment ('#' :: rest))
    | rest => some rest

/-! ### Strings -/

/-- The character of an escape by letter. -/
def escapeOf? (c : Char) : Option Char :=
  if c = 'b' then some (Char.ofNat 8)
  else if c = 't' then some '\t'
  else if c = 'n' then some '\n'
  else if c = 'f' then some (Char.ofNat 12)
  else if c = 'r' then some '\r'
  else if c = '"' then some '"'
  else if c = '\\' then some '\\'
  else none

/-- The character of an escape by code, of a fixed number of digits. -/
def codeEscape (length : Nat) (cs : List Char) : Option (Char × List Char) := do
  let digits := cs.take length
  if digits.length < length then none
  else
    let code ← digits.foldlM (fun n c => (Json.hexValue? c).map (n * 16 + ·)) 0
    if code < 0xD800 ∨ (0xDFFF < code ∧ code ≤ 0x10FFFF) then
      some (Char.ofNat code, cs.drop length)
    else none

/-- The rest after a backslash at the end of a line: blanks up to the line end, then all blanks and
line ends. -/
def foldLine (cs : List Char) : Option (List Char) :=
  match skipBlanks cs with
  | [] => some []
  | '\n' :: rest => some (rest.dropWhile fun c => isBlank c || c = '\n')
  | _ => none

/-- A string in double quotes after its opening quotes. -/
def basicText (multiline : Bool) : Nat → List Char → Option (List Char × List Char)
  | 0, _ => none
  | _ + 1, [] => none
  | fuel + 1, c :: cs =>
    if c = '"' then
      if !multiline then some ([], cs)
      else
        match cs with
        | '"' :: '"' :: rest => some ([], rest)
        | _ => (basicText multiline fuel cs).map fun (text, rest) => (c :: text, rest)
    else if c = '\\' then
      match cs with
      | [] => none
      | e :: rest =>
        if multiline && (isBlank e || e = '\n') then do basicText multiline fuel (← foldLine cs)
        else do
          let (ch, rest) ←
            if e = 'u' then codeEscape 4 rest
            else if e = 'U' then codeEscape 8 rest
            else (escapeOf? e).map (·, rest)
          let (text, rest) ← basicText multiline fuel rest
          return (ch :: text, rest)
    else if isControl c && !(multiline && c = '\n') then none
    else (basicText multiline fuel cs).map fun (text, rest) => (c :: text, rest)

/-- A string in single quotes after its opening quote. -/
def literalText (cs : List Char) : Option (List Char × List Char) :=
  let text := cs.takeWhile (· ≠ '\'')
  match cs.dropWhile (· ≠ '\'') with
  | [] => none
  | _ :: rest => if text.any isControl then none else some (text, rest)

/-- A string in three single quotes after its opening quotes. -/
def longLiteralText : List Char → Option (List Char × List Char)
  | [] => none
  | '\'' :: '\'' :: '\'' :: rest => some ([], rest)
  | c :: cs =>
    if isControl c && c ≠ '\n' then none
    else (longLiteralText cs).map fun (text, rest) => (c :: text, rest)

/-- Up to two more quotes that belong to the text although three would have ended it. -/
def extraQuotes (quote : Char) (text rest : List Char) : List Char × List Char :=
  match rest with
  | a :: b :: more =>
    if a = quote then
      if b = quote then (text ++ [quote, quote], more) else (text ++ [quote], b :: more)
    else (text, rest)
  | [a] => if a = quote then (text ++ [quote], []) else (text, rest)
  | [] => (text, rest)

/-- On past a line end right after the opening quotes. -/
def skipFirstBreak : List Char → List Char
  | '\n' :: rest => rest
  | cs => cs

/-- A string in any notation. -/
def takeText (cs : List Char) : Option (String × List Char) :=
  let fuel := cs.length + 1
  let made (r : List Char × List Char) : String × List Char := (String.ofList r.1, r.2)
  match cs with
  | '"' :: '"' :: '"' :: rest =>
    (basicText true fuel (skipFirstBreak rest)).map fun (text, rest) =>
      made (extraQuotes '"' text rest)
  | '"' :: rest => (basicText false fuel rest).map made
  | '\'' :: '\'' :: '\'' :: rest =>
    (longLiteralText (skipFirstBreak rest)).map fun (text, rest) =>
      made (extraQuotes '\'' text rest)
  | '\'' :: rest => (literalText rest).map made
  | _ => none

/-! ### Keys -/

/-- Whether the character may stand in a key without quotes. -/
def isBareKey (c : Char) : Bool := c.isAlphanum || c = '-' || c = '_'

/-- One part of a key. -/
def takeKeyPart (cs : List Char) : Option (String × List Char) :=
  match cs with
  | '\'' :: rest => (literalText rest).map fun (text, rest) => (String.ofList text, rest)
  | '"' :: rest =>
    (basicText false (cs.length + 1) rest).map fun (text, rest) => (String.ofList text, rest)
  | _ =>
    let bare := cs.takeWhile isBareKey
    if bare.isEmpty then none else some (String.ofList bare, cs.dropWhile isBareKey)

/-- A key: parts with points between them. -/
def takeKey : Nat → List Char → Option (List String × List Char)
  | 0, _ => none
  | fuel + 1, cs => do
    let (part, rest) ← takeKeyPart cs
    match skipBlanks rest with
    | '.' :: rest =>
      let (parts, rest) ← takeKey fuel (skipBlanks rest)
      return (part :: parts, rest)
    | rest => return ([part], rest)

/-! ### Numbers -/

/-- Digits with single `_` between them. -/
def takeDigits (isDigit : Char → Bool) : List Char → List Char × List Char
  | c :: rest =>
    if isDigit c then
      let (ds, after) := takeDigits isDigit rest
      (c :: ds, after)
    else
      match rest with
      | d :: _ =>
        if c = '_' && isDigit d then
          let (ds, after) := takeDigits isDigit rest
          (ds, after)
        else ([], c :: rest)
      | [] => ([], c :: rest)
  | [] => ([], [])

/-- Digits the first of which is a digit and no `_`. -/
def takeCount (isDigit : Char → Bool) (cs : List Char) : List Char × List Char :=
  if cs.head?.any isDigit then takeDigits isDigit cs else ([], cs)

/-- The number that digits of a base write. -/
def inBase (base : Nat) (ds : List Char) : Nat :=
  ds.foldl (fun n c => n * base + (Json.hexValue? c).getD 0) 0

/-- An integer with the mark of a base. -/
def takeBased (cs : List Char) : Option (Document × List Char) :=
  let based (base : Nat) (isDigit : Char → Bool) (rest : List Char) :
      Option (Document × List Char) :=
    match takeCount isDigit rest with
    | ([], _) => none
    | (ds, after) => some (.int (inBase base ds), after)
  match cs with
  | '0' :: 'x' :: rest => based 16 (fun c => (Json.hexValue? c).isSome) rest
  | '0' :: 'b' :: rest => based 2 (fun c => c = '0' || c = '1') rest
  | '0' :: 'o' :: rest => based 8 (fun c => '0' ≤ c && c ≤ '7') rest
  | _ => none

/-- A sign, if there is one: whether it is negative, and the rest. -/
def takeSign : List Char → Bool × List Char
  | '-' :: rest => (true, rest)
  | '+' :: rest => (false, rest)
  | cs => (false, cs)

/-- The digits after a point, if there are any. -/
def takePlaces : List Char → Option (List Char) × List Char
  | '.' :: rest =>
    match takeCount Char.isDigit rest with
    | ([], _) => (none, '.' :: rest)
    | (ds, after) => (some ds, after)
  | cs => (none, cs)

/-- The exponent after its mark, if there is one. -/
def takeExponent (cs : List Char) : Option Int × List Char :=
  match cs with
  | c :: rest =>
    if c = 'e' || c = 'E' then
      let (negative, body) := takeSign rest
      match takeCount Char.isDigit body with
      | ([], _) => (none, cs)
      | (ds, after) =>
        (some (if negative then -(inBase 10 ds : Int) else (inBase 10 ds : Int)), after)
    else (none, cs)
  | [] => (none, cs)

/-- A decimal integer or a number with a point or an exponent; none if neither stands here. -/
def takeDecimal (cs : List Char) : Option (Reading (Document × List Char)) :=
  let (negative, body) := takeSign cs
  let (whole, rest) :=
    match body with
    | '0' :: rest => (['0'], rest)
    | _ => takeCount Char.isDigit body
  if whole.isEmpty then none
  else
    let (places, rest) := takePlaces rest
    let (exponent, rest) := takeExponent rest
    if places.isNone && exponent.isNone then
      let n : Int := inBase 10 whole
      if digitLimit < whole.length then some (.error (.tooLong whole.length))
      else some (.ok (.int (if negative then -n else n), rest))
    else
      let fraction := places.getD []
      let d : Decimal := ⟨negative, inBase 10 (whole ++ fraction),
        exponent.getD 0 - (fraction.length : Int)⟩
      some (.ok (.float (Binary64.ofDecimal d), rest))

/-- An infinity or NaN. -/
def takeSpecial (cs : List Char) : Option (Document × List Char) :=
  let (negative, body) := takeSign cs
  match after? "inf" body, after? "nan" body with
  | some rest, _ => some (.float (.infinite negative), rest)
  | _, some rest => some (.float .nan, rest)
  | _, _ => none

/-! ### Dates and times -/

/-- Two digits that write a number in a range. -/
def takePair (least most : Nat) : List Char → Option (Nat × List Char)
  | a :: b :: rest =>
    if a.isDigit && b.isDigit then
      let n := inBase 10 [a, b]
      if least ≤ n ∧ n ≤ most then some (n, rest) else none
    else none
  | _ => none

/-- A time of day; the rest after it. -/
def afterTime (cs : List Char) : Option (List Char) := do
  let (_, rest) ← takePair 0 23 cs
  let (_, rest) ← takePair 0 59 (← after? ":" rest)
  let (_, rest) ← takePair 0 59 (← after? ":" rest)
  match rest with
  | '.' :: more => if more.head?.any Char.isDigit then some (more.dropWhile Char.isDigit) else rest
  | _ => rest

/-- The rest after the zone of a time, if there is one. -/
def afterZone (cs : List Char) : List Char :=
  let distance (rest : List Char) : Option (List Char) := do
    let (_, rest) ← takePair 0 23 rest
    let (_, rest) ← takePair 0 59 (← after? ":" rest)
    return rest
  match cs with
  | 'Z' :: rest => rest
  | 'z' :: rest => rest
  | '+' :: rest => (distance rest).getD cs
  | '-' :: rest => (distance rest).getD cs
  | _ => cs

/-- The days of a month. -/
def daysIn (year month : Nat) : Nat :=
  if month = 2 then
    if year % 4 = 0 ∧ (year % 100 ≠ 0 ∨ year % 400 = 0) then 29 else 28
  else if [4, 6, 9, 11].contains month then 30
  else 31

/-- The parts of a date and the rest after it. -/
def takeDate (cs : List Char) : Option (Nat × Nat × Nat × List Char) := do
  let digits := cs.take 4
  if digits.length < 4 || !digits.all Char.isDigit then none
  else
    let (month, rest) ← takePair 1 12 (← after? "-" (cs.drop 4))
    let (day, rest) ← takePair 1 31 (← after? "-" rest)
    return (inBase 10 digits, month, day, rest)

/-- A date, with a time or without; none if no date stands here, and a second none if its day does
not exist. -/
def takeMoment (cs : List Char) : Option (Option (Document × List Char)) :=
  match takeDate cs with
  | some (year, month, day, rest) =>
    if year = 0 ∨ daysIn year month < day then some none
    else
      let time :=
        match rest with
        | c :: more => if c = 'T' || c = 't' || c = ' ' then afterTime more else none
        | [] => none
      match time with
      | some more => some (some (.moment "datetime.datetime" "", afterZone more))
      | none => some (some (.moment "datetime.date" "", rest))
  | none => (afterTime cs).map fun rest => some (.moment "datetime.time" "", rest)

/-! ### Values -/

/-- A value that holds no others. -/
def takePlain (cs : List Char) : Reading (Document × List Char) :=
  match cs with
  | '"' :: _ => do
    let (s, rest) ← takeText cs
    return (.text s, rest)
  | '\'' :: _ => do
    let (s, rest) ← takeText cs
    return (.text s, rest)
  | _ =>
    match after? "true" cs, after? "false" cs with
    | some rest, _ => .ok (.bool true, rest)
    | _, some rest => .ok (.bool false, rest)
    | _, _ =>
      match takeMoment cs, takeBased cs, takeDecimal cs with
      | some found, _, _ => liftM found
      | none, some found, _ => .ok found
      | none, none, some found => found
      | none, none, none => liftM (takeSpecial cs)

mutual

/-- One value. -/
def takeValue : Nat → List Char → Reading (Document × List Char)
  | 0, _ => .error .malformed
  | fuel + 1, cs =>
    match cs with
    | '[' :: rest => do
      let rest ← skipSpace (rest.length + 1) rest
      let (items, rest) ← takeItems fuel rest
      return (.list items, rest)
    | '{' :: rest =>
      match skipBlanks rest with
      | '}' :: rest => .ok (.mapping [], rest)
      | rest => do
        let (entries, rest) ← takeEntries fuel [] rest
        return (.mapping (Tree.entryDocuments entries), rest)
    | _ => takePlain cs

/-- The items of an array up to its bracket; a comma may stand after the last. -/
def takeItems : Nat → List Char → Reading (List Document × List Char)
  | 0, _ => .error .malformed
  | fuel + 1, cs =>
    match cs with
    | ']' :: rest => .ok ([], rest)
    | _ => do
      let (item, rest) ← takeValue fuel cs
      match ← (skipSpace (rest.length + 1) rest : Option _) with
      | ']' :: rest => return ([item], rest)
      | ',' :: rest =>
        let rest ← skipSpace (rest.length + 1) rest
        let (items, rest) ← takeItems fuel rest
        return (item :: items, rest)
      | _ => .error .malformed

/-- The entries of an inline table up to its brace; no comma may stand after the last. -/
def takeEntries : Nat → Tree.Entries → List Char → Reading (Tree.Entries × List Char)
  | 0, _, _ => .error .malformed
  | fuel + 1, done, cs => do
    let (key, rest) ← takeKey (cs.length + 1) cs
    let rest ← after? "=" rest
    let (value, rest) ← takeValue fuel (skipBlanks rest)
    let done ← Tree.alterAt (Tree.addLeaf (key.getLastD "") value) key.dropLast done
    match skipBlanks rest with
    | '}' :: rest => return (done, rest)
    | ',' :: rest => takeEntries fuel done (skipBlanks rest)
    | _ => .error .malformed

end

end Lockable.Toml
