import Lockable.Failure
import Lockable.Json.Display

/-!
# Message templates

The message of a log record is a template: each `%` in it begins a **conversion**, which takes the
next argument, or the member of an object that it names, and writes it as a text, an integer or a
number with a point, in a field of a given width.

* `Template.Supply` is what the conversions still have to take.
* `Template.readSpec` reads one conversion up to its letter. A width or a precision may itself be
  taken from the arguments, so reading draws on the supply.
* `Template.fill` fills a template in. Every argument must be taken, unless they are named.
-/

namespace Lockable

/-- The arguments of a template. -/
inductive Arguments where
  /-- No arguments; the template is the message. -/
  | none
  /-- Values that the conversions take in turn. -/
  | positional (values : List Json)
  /-- One value, whose members can be asked for by name. -/
  | single (value : Json)
  deriving Inhabited

namespace Arguments

/-- The arguments that a value is when it stands alone; one that is not given is no argument. -/
def ofValue (value : Json) : Arguments := if value.truthy then .single value else .none

/-- The arguments that a list of values is. An object alone in the list is asked for members. -/
def ofValues : List Json → Arguments
  | [] => .none
  | [.object (m :: rest)] => .single (.object (m :: rest))
  | values => .positional values

/-- The arguments that a record is given: a list of values, or an object with named ones. An object
with **one** member is looked at as if it were a list, and has no first item. -/
def read : Json → Except Failure Arguments
  | .null => .ok .none
  | .list values => .ok (ofValues values)
  | .object [_] => .error (.missingPosition 0)
  | value => .ok (ofValue value)

end Arguments

namespace Template

/-! ### The supply -/

/-- What conversions can take: the next values, and the value that is asked for members. -/
structure Supply where
  pending : List Json
  members : Option Json := none

/-- Whether a value can be asked for members. -/
def hasMembers : Json → Bool
  | .object _ => true
  | .list _ => true
  | _ => false

/-- The supply that arguments are. -/
def Supply.ofArguments : Arguments → Supply
  | .none => { pending := [] }
  | .positional values => { pending := values }
  | .single value =>
    { pending := [value], members := if hasMembers value then some value else none }

/-- Takes the next value. -/
def Supply.next (s : Supply) : Except Failure (Json × Supply) :=
  match s.pending with
  | value :: rest => .ok (value, { s with pending := rest })
  | [] => .error (.wrongType "not enough arguments for format string")

/-- Takes the member of a name as the next value. -/
def Supply.select (s : Supply) (key : String) : Except Failure Supply :=
  match s.members with
  | none => .error (.wrongType "format requires a mapping")
  | some (.object members) =>
    match Keyed.find? key members with
    | some value => .ok { s with pending := [value] }
    | none => .error (.missingMember key)
  | some _ => .error (.wrongType "list indices must be integers or slices, not str")

/-! ### Conversions -/

/-- One conversion: how the field is laid out, and the letter that says what is written. -/
structure Spec where
  leftAligned : Bool := false
  plus : Bool := false
  blank : Bool := false
  alternate : Bool := false
  zeros : Bool := false
  width : Nat := 0
  precision : Option Nat := none
  letter : Char := 's'

/-- The conversion ends before its letter. -/
def incomplete : Failure := .wrongValue "incomplete format"

/-- Splits the name of a member from what follows its closing parenthesis; parentheses inside it
are balanced. -/
def splitKey : Nat → List Char → Option (List Char × List Char)
  | _, [] => none
  | depth, c :: cs =>
    if c = ')' ∧ depth = 0 then some ([], cs)
    else
      let depth := if c = '(' then depth + 1 else if c = ')' then depth - 1 else depth
      (splitKey depth cs).map fun (key, rest) => (c :: key, rest)

/-- Reads the flags. -/
def readFlags (spec : Spec) : List Char → Spec × List Char
  | '-' :: cs => readFlags { spec with leftAligned := true } cs
  | '+' :: cs => readFlags { spec with plus := true } cs
  | ' ' :: cs => readFlags { spec with blank := true } cs
  | '#' :: cs => readFlags { spec with alternate := true } cs
  | '0' :: cs => readFlags { spec with zeros := true } cs
  | cs => (spec, cs)

/-- A decimal numeral at most `limit`, and the rest; the numeral may be empty. -/
def readSize (limit : Nat) (what : String) (cs : List Char) : Except Failure (Nat × List Char) :=
  let n := (cs.takeWhile Char.isDigit).foldl (fun n d => n * 10 + (d.toNat - 48)) 0
  if limit < n then .error (.wrongValue (what ++ " too big"))
  else .ok (n, cs.dropWhile Char.isDigit)

/-- An integer among the values, for a width or a precision. -/
def Supply.nextSize (s : Supply) (limit : Int) (kind : String) :
    Except Failure (Int × Supply) := do
  let (value, s) ← s.next
  match value.worth with
  | none => .error (.wrongType "* wants int")
  | some n =>
    if limit < n ∨ n < -limit then
      .error (.tooLarge ("Python int too large to convert to C " ++ kind))
    else return (n, s)

/-- Reads the width of the field. -/
def readWidth (spec : Spec) (cs : List Char) (s : Supply) :
    Except Failure (Spec × List Char × Supply) :=
  match cs with
  | '*' :: cs => do
    let (n, s) ← s.nextSize 9223372036854775807 "ssize_t"
    return ({ spec with width := n.natAbs, leftAligned := spec.leftAligned || n < 0 }, cs, s)
  | cs => do
    let (n, cs) ← readSize 9223372036854775807 "width" cs
    return ({ spec with width := n }, cs, s)

/-- Reads the precision, after its point. -/
def readPrecision (spec : Spec) (cs : List Char) (s : Supply) :
    Except Failure (Spec × List Char × Supply) :=
  match cs with
  | '.' :: '*' :: cs => do
    let (n, s) ← s.nextSize 2147483647 "int"
    return ({ spec with precision := some n.toNat }, cs, s)
  | '.' :: cs => do
    let (n, cs) ← readSize 2147483647 "precision" cs
    return ({ spec with precision := some n }, cs, s)
  | cs => .ok (spec, cs, s)

/-- The text after a size letter, which means nothing. -/
def skipSize : List Char → List Char
  | 'h' :: cs => cs
  | 'l' :: cs => cs
  | 'L' :: cs => cs
  | cs => cs

/-- Reads one conversion after its `%`, up to its letter. -/
def readSpec (cs : List Char) (s : Supply) : Except Failure (Spec × List Char × Supply) := do
  let (cs, s) ← match cs with
    | '(' :: rest =>
      match s.members with
      | none => .error (.wrongType "format requires a mapping")
      | some _ =>
        match splitKey 0 rest with
        | none => .error (.wrongValue "incomplete format key")
        | some (key, rest) => do
          let s ← s.select (String.ofList key)
          .ok (rest, s)
    | cs => .ok (cs, s)
  let (spec, cs) := readFlags {} cs
  let (spec, cs, s) ← readWidth spec cs s
  let (spec, cs, s) ← readPrecision spec cs s
  match skipSize cs with
  | [] => .error incomplete
  | letter :: cs => return ({ spec with letter }, cs, s)

/-! ### Fields -/

/-- A field: a sign, a mark such as `0x`, and the body, filled up to the width. -/
def field (spec : Spec) (zeros : Bool) (sign mark body : List Char) : List Char :=
  let gap := spec.width - (sign.length + mark.length + body.length)
  if spec.leftAligned then sign ++ mark ++ body ++ List.replicate gap ' '
  else if zeros then sign ++ mark ++ List.replicate gap '0' ++ body
  else List.replicate gap ' ' ++ sign ++ mark ++ body

/-- The sign of a number. -/
def signOf (spec : Spec) (negative : Bool) : List Char :=
  if negative then ['-'] else if spec.plus then ['+'] else if spec.blank then [' '] else []

/-- The field of a number. -/
def numberField (spec : Spec) (negative : Bool) (mark body : List Char) : List Char :=
  field spec spec.zeros (signOf spec negative) mark body

/-- The field of a text, cut to the precision. -/
def textField (spec : Spec) (text : List Char) : List Char :=
  let text := match spec.precision with
    | some n => text.take n
    | none => text
  field spec false [] [] text

/-! ### Integers -/

/-- The integer that a value is for a decimal conversion: a number is cut to its whole part. -/
def wholeOf (spec : Spec) (value : Json) : Except Failure Int :=
  match value with
  | .float x =>
    match x with
    | .nan => .error (.wrongValue "cannot convert float NaN to integer")
    | .infinite _ => .error (.tooLarge "cannot convert float infinity to integer")
    | x => .ok x.truncate
  | value =>
    match value.worth with
    | some n => .ok n
    | none =>
      .error (.wrongType
        s!"%{spec.letter} format: a real number is required, not {value.kind}")

/-- The integer that a value is for a conversion in base eight or sixteen. -/
def integerOf (spec : Spec) (value : Json) : Except Failure Int :=
  match value.worth with
  | some n => .ok n
  | none =>
    .error (.wrongType s!"%{spec.letter} format: an integer is required, not {value.kind}")

/-- Digits with zeros in front up to the precision. -/
def padDigits (spec : Spec) (digits : List Char) : List Char :=
  List.replicate ((spec.precision.getD 0) - digits.length) '0' ++ digits

/-- The field of an integer in a base, with the mark of the base in the alternate form. -/
def integerField (spec : Spec) (base : Nat) (mark : List Char) (n : Int) : List Char :=
  let digits := padDigits spec (Nat.toDigits base n.natAbs)
  let digits := if spec.letter = 'X' then digits.map Char.toUpper else digits
  numberField spec (n < 0) (if spec.alternate then mark else []) digits

/-! ### Numbers with a point -/

/-- The number that a value is. -/
def numberOf (value : Json) : Except Failure Binary64 :=
  match value with
  | .float x => .ok x
  | value =>
    match value.worth with
    | none => .error (.wrongType s!"must be real number, not {value.kind}")
    | some n =>
      if (Binary64.ofInt n).isFinite then .ok (Binary64.ofInt n)
      else .error (.tooLarge "int too large to convert to float")

/-- Digits with a point before the last `places` of them; without places the point is written only
if it is `kept`. -/
def pointBefore (places : Nat) (kept : Bool) (digits : List Char) : List Char :=
  let digits := List.replicate (places + 1 - digits.length) '0' ++ digits
  let whole := digits.take (digits.length - places)
  let fraction := digits.drop (digits.length - places)
  whole ++ (if fraction.isEmpty && !kept then [] else '.' :: fraction)

/-- The digits of a number rounded to `count` of them, and the exponent of the first. -/
def scientific (x : Binary64) (count : Nat) : List Char × Int :=
  match x with
  | .finite _ significand exponent _ =>
    if significand = 0 then (List.replicate count '0', 0)
    else
      let (digits, lead) := Binary64.roundDigits significand exponent count
      (Nat.toDigits 10 digits, lead)
  | _ => ([], 0)

/-- A text without the zeros at its end and without a point that is then left. -/
def dropZeros (cs : List Char) : List Char :=
  match cs.reverse.dropWhile (· = '0') with
  | '.' :: rest => rest.reverse
  | rest => rest.reverse

/-- A finite number in fixed, scientific or general form. -/
def finiteBody (spec : Spec) (x : Binary64) : List Char :=
  let precision := spec.precision.getD 6
  let form := spec.letter.toLower
  if form = 'f' then
    pointBefore precision spec.alternate (Nat.toDigits 10 (x.roundPlaces precision))
  else if form = 'e' then
    let (digits, lead) := scientific x (precision + 1)
    pointBefore precision spec.alternate digits ++ 'e' :: Binary64.exponentText lead
  else
    let count := if precision = 0 then 1 else precision
    let (digits, lead) := scientific x count
    let trim (cs : List Char) : List Char :=
      if spec.alternate || !cs.contains '.' then cs else dropZeros cs
    if -4 ≤ lead ∧ lead < count then
      trim (pointBefore (count - 1 - lead).toNat spec.alternate digits)
    else
      trim (pointBefore (count - 1) spec.alternate digits) ++ 'e' :: Binary64.exponentText lead

/-- The field of a number with a point; a capital letter asks for capitals. -/
def pointField (spec : Spec) (x : Binary64) : List Char :=
  let (negative, body) := match x with
    | .nan => (false, "nan".toList)
    | .infinite negative => (negative, "inf".toList)
    | .finite negative .. => (negative, finiteBody spec x)
  let body := if spec.letter.isUpper then body.map Char.toUpper else body
  numberField spec negative [] body

/-! ### Characters and texts -/

/-- The character that a value is: a text of one, or the code of one. -/
def characterOf (value : Json) : Except Failure Char :=
  match value with
  | .text s =>
    match s.toList with
    | [c] => .ok c
    | _ => .error (.wrongType "%c requires int or char")
  | value =>
    match value.worth with
    | none => .error (.wrongType "%c requires int or char")
    | some n =>
      if 0 ≤ n ∧ n < 0x110000 then .ok (Char.ofNat n.toNat)
      else .error (.tooLarge "%c arg not in range(0x110000)")

/-- A text with every character outside ASCII by its code. -/
def asciiOnly (cs : List Char) : List Char :=
  cs.flatMap fun c => if c.toNat < 128 then [c] else Text.escapeCode c.toNat

/-- The words for a letter that asks for nothing. -/
def unsupported (letter : Char) (index : Nat) : Failure :=
  let n := letter.toNat
  let shown := if 31 ≤ n ∧ n ≤ 126 then letter else '?'
  let code := String.ofList (Nat.toDigits 16 n)
  .wrongValue s!"unsupported format character '{shown}' (0x{code}) at index {index}"

/-- Writes a value as the letter of a conversion asks; `index` is where the letter stands. -/
def convert (spec : Spec) (index : Nat) (value : Json) : Except Failure (List Char) :=
  let letter := spec.letter
  if letter = 's' then (value.ifShowable value.display).map fun s => textField spec s.toList
  else if letter = 'r' then (value.ifShowable value.shown).map fun s => textField spec s.toList
  else if letter = 'a' then
    (value.ifShowable value.shown).map fun s => textField spec (asciiOnly s.toList)
  else if letter = 'd' ∨ letter = 'i' ∨ letter = 'u' then do
    let n ← wholeOf spec value
    if Showable n then return integerField spec 10 [] n else .error Json.notShown
  else if letter = 'o' then (integerOf spec value).map (integerField spec 8 ['0', 'o'])
  else if letter = 'x' ∨ letter = 'X' then
    (integerOf spec value).map (integerField spec 16 ['0', letter])
  else if letter.toLower = 'e' ∨ letter.toLower = 'f' ∨ letter.toLower = 'g' then
    (numberOf value).map (pointField spec)
  else if letter = 'c' then
    (characterOf value).map fun c => field spec false [] [] [c]
  else .error (unsupported letter index)

/-! ### Filling in -/

/-- Fills in what is left of a template of `length` characters; `fuel` bounds the conversions. -/
def fillFrom : Nat → Nat → List Char → Supply → Except Failure (List Char)
  | 0, _, _, _ => .error incomplete
  | fuel + 1, length, cs, s =>
    match cs with
    | [] =>
      if s.pending.isEmpty || s.members.isSome then .ok []
      else .error (.wrongType "not all arguments converted during string formatting")
    | '%' :: '%' :: cs => return '%' :: (← fillFrom fuel length cs s)
    | '%' :: cs => do
      let (spec, cs, s) ← readSpec cs s
      let (value, s) ← s.next
      let text ← convert spec (length - cs.length - 1) value
      return text ++ (← fillFrom fuel length cs s)
    | c :: cs => return c :: (← fillFrom fuel length cs s)

/-- Fills in a template. Without arguments it stays as it is. -/
def fill (template : String) : Arguments → Except Failure String
  | .none => .ok template
  | arguments => do
    let cs := template.toList
    return String.ofList (← fillFrom (cs.length + 1) cs.length cs (.ofArguments arguments))

end Template

end Lockable
