import Lockable.Document
import Lockable.Json.Reader
import Lockable.Number.Limit
import Lockable.Yaml.Text

/-!
# Plain scalars

What a plain word stands for. `Tag.ofPlain` decides the kind of a word by its spelling alone:
booleans have six spellings, integers five notations (with `_` between digits and `:` between
base-60 places), and a word that is none of these is a text. `makeScalar` is the value of a word of
a given kind, which need not fit when the kind was written as a tag.
-/

namespace Lockable.Yaml

/-- What kind of value a node is. -/
inductive Tag where
  | null
  | bool
  | int
  | float
  | octets
  | moment
  | orderedMap
  | pairs
  | bag
  | text
  | sequence
  | mapping
  | merge
  | default
  | unknown (address : String)
  deriving DecidableEq, Repr

namespace Tag

/-- What the addresses of the known kinds begin with. -/
def stem : String := "tag:yaml.org,2002:"

/-- The known kinds by the ends of their addresses. -/
def known : List (String × Tag) :=
  [("null", .null), ("bool", .bool), ("int", .int), ("float", .float), ("binary", .octets),
   ("timestamp", .moment), ("omap", .orderedMap), ("pairs", .pairs), ("set", .bag), ("str", .text),
   ("seq", .sequence), ("map", .mapping), ("merge", .merge), ("value", .default)]

/-- The kind of an address. -/
def ofAddress (address : String) : Tag :=
  match known.find? fun k => stem ++ k.1 = address with
  | some (_, tag) => tag
  | none => .unknown address

/-! ### Spellings -/

/-- Whether the characters are hexadecimal digits or `_`. -/
def allDigits (isDigit : Char → Bool) (cs : List Char) : Bool :=
  !cs.isEmpty && cs.all fun c => isDigit c || c = '_'

/-- The characters after a sign, if there is one. -/
def unsigned : List Char → List Char
  | '+' :: cs => cs
  | '-' :: cs => cs
  | cs => cs

/-- Whether the characters are decimal digits and `_`, the first one a digit. -/
def isCount (cs : List Char) : Bool :=
  cs.head?.any Char.isDigit && cs.all fun c => c.isDigit || c = '_'

/-- Whether the characters are a place of a base-60 number: up to 59, in one or two digits. -/
def isSixtieth (cs : List Char) : Bool :=
  match cs with
  | [a] => a.isDigit
  | [a, b] => '0' ≤ a && a ≤ '5' && b.isDigit
  | _ => false

/-- Whether the word is a boolean. -/
def spellsBool (s : String) : Bool :=
  ["yes", "Yes", "YES", "no", "No", "NO", "true", "True", "TRUE", "false", "False", "FALSE", "on",
   "On", "ON", "off", "Off", "OFF"].contains s

/-- Whether the word is null. -/
def spellsNull (s : String) : Bool := ["", "~", "null", "Null", "NULL"].contains s

/-- Whether the characters are an exponent with a sign, or nothing. -/
def isExponent : List Char → Bool
  | [] => true
  | e :: sign :: digits =>
    (e = 'e' || e = 'E') && (sign = '+' || sign = '-') && !digits.isEmpty && digits.all Char.isDigit
  | _ => false

/-- Whether the word is a number with a point. -/
def spellsFloat (cs : List Char) : Bool :=
  let body := unsigned cs
  let whole := body.takeWhile (· ≠ '.')
  match body.dropWhile (· ≠ '.') with
  | [] => false
  | _ :: after =>
    let places := after.takeWhile fun c => c.isDigit || c = '_'
    let rest := after.dropWhile fun c => c.isDigit || c = '_'
    let parts := Text.splitOn (· = ':') whole
    if whole.isEmpty then
      [['i', 'n', 'f'], ['I', 'n', 'f'], ['I', 'N', 'F']].contains after
        || (body.length = cs.length
          && ([['n', 'a', 'n'], ['N', 'a', 'N'], ['N', 'A', 'N']].contains after
            || (after.head?.any Char.isDigit && isExponent rest)))
    else if isCount whole then isExponent rest
    else
      parts.length > 1 && isCount (parts.headD []) && (parts.drop 1).all isSixtieth
        && rest.isEmpty && places.length = after.length

/-- Whether the word is an integer. -/
def spellsInt (cs : List Char) : Bool :=
  let body := unsigned cs
  match body with
  | '0' :: 'b' :: ds => allDigits (fun c => c = '0' || c = '1') ds
  | '0' :: 'x' :: ds => allDigits (fun c => (hexValue? c).isSome) ds
  | ['0'] => true
  | '0' :: ds => allDigits (fun c => '0' ≤ c && c ≤ '7') ds
  | _ =>
    let parts := Text.splitOn (· = ':') body
    isCount (parts.headD []) && (parts.drop 1).all isSixtieth

end Tag

/-! ### Dates and times -/

/-- The zone of a time: none, universal time, or a distance from it. -/
inductive Zone where
  | unsaid
  | universal
  | distance (negative : Bool) (hours minutes : Nat)
  deriving DecidableEq, Repr

/-- A time of day; the fraction of the second is kept as its digits. -/
structure TimeOfDay where
  hour : Nat
  minute : Nat
  second : Nat
  fraction : List Char
  zone : Zone
  deriving DecidableEq, Repr

/-- A date with, perhaps, a time of day. -/
structure Moment where
  year : Nat
  month : Nat
  day : Nat
  time : Option TimeOfDay
  deriving DecidableEq, Repr

/-- A number of at least `least` and at most `most` digits, as many as there are. -/
def takeNumber (least most : Nat) (cs : List Char) : Option (Nat × List Char) :=
  let digits := (cs.take most).takeWhile Char.isDigit
  if digits.length < least then none else some (Json.digitsValue digits, cs.drop digits.length)

/-- The zone after a time: nothing, `Z`, or a signed distance in hours and minutes. -/
def takeZone (cs : List Char) : Option Zone :=
  if cs.isEmpty then some .unsaid
  else
    match cs.dropWhile fun c => c = ' ' || c = '\t' with
    | ['Z'] => some .universal
    | sign :: rest =>
      if sign = '+' || sign = '-' then
        match takeNumber 1 2 rest with
        | some (hours, []) => some (.distance (sign = '-') hours 0)
        | some (hours, ':' :: rest) =>
          match takeNumber 2 2 rest with
          | some (minutes, []) => some (.distance (sign = '-') hours minutes)
          | _ => none
        | _ => none
      else none
    | [] => none

/-- The time of day after a date. -/
def takeTime (cs : List Char) : Option TimeOfDay := do
  let (hour, rest) ← takeNumber 1 2 cs
  let rest ← Json.afterWord? [':'] rest
  let (minute, rest) ← takeNumber 2 2 rest
  let rest ← Json.afterWord? [':'] rest
  let (second, rest) ← takeNumber 2 2 rest
  let (fraction, rest) :=
    match rest with
    | '.' :: after => (after.takeWhile Char.isDigit, after.dropWhile Char.isDigit)
    | _ => ([], rest)
  return ⟨hour, minute, second, fraction, ← takeZone rest⟩

/-- The moment that a word spells. -/
def Moment.read? (cs : List Char) : Option Moment := do
  let (year, rest) ← takeNumber 4 4 cs
  let rest ← Json.afterWord? ['-'] rest
  let (month, rest) ← takeNumber 1 2 rest
  let rest ← Json.afterWord? ['-'] rest
  let (day, rest) ← takeNumber 1 2 rest
  match rest with
  | [] => return ⟨year, month, day, none⟩
  | c :: after =>
    if c = 'T' || c = 't' then return ⟨year, month, day, ← takeTime after⟩
    else
      let time := rest.dropWhile fun c => c = ' ' || c = '\t'
      if time.length < rest.length then return ⟨year, month, day, ← takeTime time⟩ else none

/-- Whether a plain word is a moment; a date alone needs two digits for month and day. -/
def Tag.spellsMoment (cs : List Char) : Bool :=
  match Moment.read? cs with
  | some m => m.time.isSome || cs.length = 10
  | none => false

/-- The kind that a plain word has by its spelling. -/
def Tag.ofPlain (s : String) : Tag :=
  let cs := s.toList
  if spellsBool s then .bool
  else if spellsFloat cs then .float
  else if spellsInt cs then .int
  else if s = "<<" then .merge
  else if spellsNull s then .null
  else if spellsMoment cs then .moment
  else if s = "=" then .default
  else .text

/-! ### Values -/

/-- The days of a month. -/
def daysIn (year month : Nat) : Nat :=
  if month = 2 then
    if year % 4 = 0 ∧ (year % 100 ≠ 0 ∨ year % 400 = 0) then 29 else 28
  else if [4, 6, 9, 11].contains month then 30
  else 31

/-- A value out of range, in these words. -/
def outOfRange {α : Type} (words : String) : Reading α := .error (.unmakable (.wrongValue words))

/-- The zone of a time as it is shown; a distance must be less than a day. -/
def Zone.shown : Zone → Reading (List String)
  | .unsaid => .ok []
  | .universal => .ok ["datetime.timezone.utc"]
  | .distance negative hours minutes =>
    let total : Int := ((hours * 60 + minutes) * 60 : Nat)
    let distance := if negative then -total else total
    let days := Int.fdiv distance 86400
    let seconds := Int.fmod distance 86400
    let parts := (if days = 0 then [] else [s!"days={days}"])
      ++ (if seconds = 0 then [] else [s!"seconds={seconds}"])
    let shown := "datetime.timedelta(" ++ ", ".intercalate parts ++ ")"
    if distance ≤ -86400 ∨ 86400 ≤ distance then
      outOfRange ("offset must be a timedelta strictly between -timedelta(hours=24) and " ++
        s!"timedelta(hours=24), not {shown}.")
    else if total = 0 then .ok ["datetime.timezone.utc"]
    else .ok ["datetime.timezone(" ++ shown ++ ")"]

/-- The value of a moment, all parts of which must be in range. -/
def Moment.make (m : Moment) : Reading Document := do
  let zone ← match m.time with
    | some t => t.zone.shown
    | none => pure []
  if m.year = 0 then outOfRange "year 0 is out of range"
  else if m.month = 0 ∨ 12 < m.month then outOfRange "month must be in 1..12"
  else if m.day = 0 ∨ daysIn m.year m.month < m.day then outOfRange "day is out of range for month"
  else
    let date := s!"{m.year}, {m.month}, {m.day}"
    match m.time with
    | none => return .moment "datetime.date" s!"datetime.date({date})"
    | some t =>
      if 23 < t.hour then outOfRange "hour must be in 0..23"
      else if 59 < t.minute then outOfRange "minute must be in 0..59"
      else if 59 < t.second then outOfRange "second must be in 0..59"
      else
        let micro := Json.digitsValue ((t.fraction ++ List.replicate 6 '0').take 6)
        let parts := [date, toString t.hour, toString t.minute]
          ++ (if t.second = 0 ∧ micro = 0 then [] else [toString t.second])
          ++ (if micro = 0 then [] else [toString micro])
          ++ zone.map ("tzinfo=" ++ ·)
        let shown := ", ".intercalate parts
        return .moment "datetime.datetime" s!"datetime.datetime({shown})"

/-- A number in a base, all digits of which must be digits of the base. In base 10 the digits at its
beginning are counted before the rest is looked at. -/
def numberIn (base : Nat) (cs : List Char) : Reading Int :=
  let digit? (c : Char) : Option Nat := (hexValue? c).filter (· < base)
  let body := Text.trimWhile Text.isBlank cs
  let (negative, body) :=
    match body with
    | '-' :: rest => (true, rest)
    | '+' :: rest => (false, rest)
    | _ => (false, body)
  let digits := (body.takeWhile fun c => (digit? c).isSome).length
  if base = 10 ∧ digitLimit < digits then outOfRange (tooManyDigits digits)
  else
    match body.isEmpty, body.foldlM (fun n c => (digit? c).map (n * base + ·)) 0 with
    | false, some n => .ok (if negative then -(n : Int) else (n : Int))
    | _, _ =>
      let quoted := String.ofList ((Text.quoted (String.ofList cs)).toList.take 200)
      outOfRange s!"invalid literal for int() with base {base}: {quoted}"

/-- A base-60 number from its places. -/
def sixty (places : List Int) : Int := places.foldl (fun n d => n * 60 + d) 0

/-- The value of a word as an integer. -/
def makeInt (s : String) : Reading Document := do
  let cs := s.toList.filter (· ≠ '_')
  let negative := cs.head? = some '-'
  let signed (n : Int) : Document := .int (if negative then -n else n)
  match cs with
  | [] => .error (.unmakable (.outOfRange "string"))
  | _ =>
    let body := Tag.unsigned cs
    match body with
    | ['0'] => return .int 0
    | '0' :: 'b' :: ds => return signed (← numberIn 2 ds)
    | '0' :: 'x' :: ds => return signed (← numberIn 16 ds)
    | '0' :: _ => return signed (← numberIn 8 body)
    | [] => .error (.unmakable (.outOfRange "string"))
    | _ =>
      if body.contains ':' then
        return signed (sixty (← (Text.splitOn (· = ':') body).mapM (numberIn 10)))
      else return signed (← numberIn 10 body)

/-- The decimal that a word writes, if it writes one: digits with at most one point, and an
exponent. -/
def decimalOf? (cs : List Char) : Option Decimal :=
  let (negative, body) :=
    match cs with
    | '-' :: rest => (true, rest)
    | '+' :: rest => (false, rest)
    | _ => (false, cs)
  let (whole, rest) := Json.takeDigits body
  let (places, rest) :=
    match rest with
    | '.' :: after => Json.takeDigits after
    | _ => ([], rest)
  if whole.isEmpty && places.isEmpty then none
  else
    match rest with
    | [] => some ⟨negative, Json.digitsValue (whole ++ places), -(places.length : Int)⟩
    | _ =>
      match Json.takeExponent rest with
      | (some e, []) =>
        some ⟨negative, Json.digitsValue (whole ++ places), e - (places.length : Int)⟩
      | _ => none

/-- The number that a word writes: a decimal, an infinity or NaN, without regard to case. -/
def numberOf? (cs : List Char) : Option Binary64 :=
  match decimalOf? cs with
  | some d => some (Binary64.ofDecimal d)
  | none =>
    let negative := cs.head? = some '-'
    let word := String.ofList ((Tag.unsigned cs).map Char.toLower)
    if word = "inf" ∨ word = "infinity" then some (.infinite negative)
    else if word = "nan" then some .nan
    else none

/-- The value of a part of a word as a number. -/
def makeNumber (cs : List Char) : Reading Binary64 :=
  match numberOf? (Text.trimWhile Text.isBlank cs) with
  | some x => .ok x
  | none =>
    outOfRange s!"could not convert string to float: {Text.quoted (String.ofList cs)}"

/-- The value of a word as a number with a point. -/
def makeFloat (s : String) : Reading Document := do
  let cs := (s.toList.filter (· ≠ '_')).flatMap Text.lowerChar
  let negative := cs.head? = some '-'
  let signed (x : Binary64) : Document := .float (if negative then x.neg else x)
  match cs with
  | [] => .error (.unmakable (.outOfRange "string"))
  | _ =>
    let body := Tag.unsigned cs
    if body = ".inf".toList then return signed (.infinite false)
    else if body = ".nan".toList then return .float .nan
    else if body.contains ':' then
      let places ← (Text.splitOn (· = ':') body).mapM makeNumber
      let step (acc : Binary64 × Int) (x : Binary64) : Binary64 × Int :=
        (acc.1.add (x.mul (Binary64.ofInt acc.2)), acc.2 * 60)
      return signed (places.reverse.foldl step (Binary64.zero false, 1)).1
    else return signed (← makeNumber body)

/-- The six bits of a letter of base 64. -/
def sextet? (c : Char) : Option Nat :=
  let n := c.toNat
  if 65 ≤ n ∧ n ≤ 90 then some (n - 65)
  else if 97 ≤ n ∧ n ≤ 122 then some (n - 71)
  else if 48 ≤ n ∧ n ≤ 57 then some (n + 4)
  else if c = '+' then some 62
  else if c = '/' then some 63
  else none

/-- The octets of groups of four letters; a last group of two or three must be padded. -/
def sextetOctets : List Nat → Option (List UInt8)
  | a :: b :: c :: d :: rest =>
    let n := ((a * 64 + b) * 64 + c) * 64 + d
    (sextetOctets rest).map fun more =>
      UInt8.ofNat (n / 65536) :: UInt8.ofNat (n / 256) :: UInt8.ofNat n :: more
  | [a, b, c] =>
    let n := (a * 64 + b) * 64 + c
    some [UInt8.ofNat (n / 1024), UInt8.ofNat (n / 4)]
  | [a, b] => some [UInt8.ofNat ((a * 64 + b) / 16)]
  | [_] => none
  | [] => some []

/-- The value of a word as octets in base 64; other characters are skipped. -/
def makeOctets (s : String) : Reading Document :=
  if s.toList.any fun c => 128 ≤ c.toNat then malformed
  else
    let letters := (s.toList.takeWhile (· ≠ '=')).filterMap sextet?
    let padding := (s.toList.filter (· = '=')).length
    if letters.length % 4 + padding < 4 ∧ letters.length % 4 ≠ 0 then malformed
    else
      match sextetOctets letters with
      | some bs => .ok (.octets bs)
      | none => malformed

/-- The value of a word of a kind. -/
def makeScalar (tag : Tag) (s : String) : Reading Document :=
  match tag with
  | .null => .ok .null
  | .bool =>
    let word := Text.lower s
    if ["yes", "true", "on"].contains word then .ok (.bool true)
    else if ["no", "false", "off"].contains word then .ok (.bool false)
    else .error (.unmakable (.missingMember word))
  | .int => makeInt s
  | .float => makeFloat s
  | .octets => makeOctets s
  | .moment =>
    match Moment.read? s.toList with
    | some m => m.make
    | none => .error (.unmakable (.noAttribute "NoneType" "groupdict"))
  | .text => .ok (.text s)
  | _ => malformed

end Lockable.Yaml
