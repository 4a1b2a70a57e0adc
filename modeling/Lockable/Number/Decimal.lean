import Lockable.Number.Binary64

/-!
# Decimal text of double-precision numbers

A `Decimal` is a natural number of digits scaled by a power of ten. Reading one gives the nearest
`Binary64`; writing one gives the **shortest** decimal that reads back.

* `Binary64.ofDecimal` is the reader.
* `Binary64.exact` is the whole decimal expansion, which every finite number has.
* `Binary64.shortest` tries one digit, then two, up to seventeen. On each grid only the two
  neighbours of the number can be nearest to it, and each is **read back** before it is taken, so
  what is written always reads back; the exact expansion stands behind the search.
* `Binary64.text` is the layout used wherever this library shows a number: positional between
  `0.0001` and `10 ^ 16`, scientific outside.
-/

namespace Lockable

/-- A decimal: `digits * 10 ^ exponent`, with a sign. -/
structure Decimal where
  negative : Bool := false
  digits : Nat
  exponent : Int
  deriving DecidableEq, Repr, Inhabited

namespace Decimal

/-- The digits as characters, without leading zeros. -/
def digitText (d : Decimal) : List Char := Nat.toDigits 10 d.digits

/-- Divides out a factor of ten as often as `fuel` allows. -/
def stripZeros : Nat → Nat → Int → Nat × Int
  | 0, n, e => (n, e)
  | fuel + 1, n, e => if n ≠ 0 ∧ n % 10 = 0 then stripZeros fuel (n / 10) (e + 1) else (n, e)

/-- The same number without trailing zeros among its digits. -/
def trim (d : Decimal) : Decimal :=
  if d.digits = 0 then ⟨d.negative, 0, 0⟩
  else
    let (n, e) := stripZeros d.digitText.length d.digits d.exponent
    ⟨d.negative, n, e⟩

end Decimal

namespace Binary64

/-- The number **nearest** to a decimal. A decimal of magnitude `10 ^ 310` or more overflows and
one below `10 ^ (-330)` underflows, which spares the large powers of ten. -/
def ofDecimal (d : Decimal) : Binary64 :=
  if d.digits = 0 then zero d.negative
  else
    let magnitude : Int := d.digitText.length + d.exponent
    if 311 < magnitude then .infinite d.negative
    else if magnitude < -330 then zero d.negative
    else if 0 ≤ d.exponent then ofRatio d.negative (d.digits * Nat.pow 10 d.exponent.toNat) 1
    else ofRatio d.negative d.digits (Nat.pow 10 (-d.exponent).toNat)

/-- The whole decimal expansion of a finite number. -/
def exact (negative : Bool) (significand exponent : Nat) : Decimal :=
  if 1074 ≤ exponent then ⟨negative, significand * Nat.pow 2 (exponent - 1074), 0⟩
  else
    let k := 1074 - exponent
    ⟨negative, significand * Nat.pow 5 k, -(k : Int)⟩

/-- The neighbours of a decimal on the grid of `count` significant digits, the nearer one first and
of two equally near ones the even one. -/
def gridNeighbours (d : Decimal) (count : Nat) : List Decimal :=
  let cut := d.digitText.length - count
  let unit := Nat.pow 10 cut
  let low := d.digits / unit
  let point (q : Nat) : Decimal := ⟨d.negative, q, d.exponent + cut⟩
  let twice := 2 * (d.digits % unit)
  if twice < unit ∨ (twice = unit ∧ low % 2 = 0) then [point low, point (low + 1)]
  else [point (low + 1), point low]

/-- The **shortest** decimal that reads back as the finite number, and of those the nearest. -/
def shortest (negative : Bool) (significand exponent : Nat)
    (canonical : Canonical significand exponent) : Decimal :=
  let whole := exact negative significand exponent
  let candidates := (List.range 17).flatMap fun k => gridNeighbours whole (k + 1)
  let reads := candidates.find? fun d =>
    ofDecimal d = .finite negative significand exponent canonical
  (reads.getD whole).trim

/-! ### Layout -/

/-- The exponent of scientific notation, with a sign and at least two digits. -/
def exponentText (e : Int) : List Char :=
  let digits := Nat.toDigits 10 e.natAbs
  (if e < 0 then '-' else '+') :: (if digits.length < 2 then '0' :: digits else digits)

/-- A decimal as text: positional when its first digit stands between the fourth place after the
point and the sixteenth before it, scientific otherwise. -/
def layout (d : Decimal) : List Char :=
  let digits := d.digitText
  let point : Int := digits.length + d.exponent
  let body :=
    if d.digits = 0 then ['0', '.', '0']
    else if -4 < point ∧ point ≤ 16 then
      if point ≤ 0 then '0' :: '.' :: (List.replicate (-point).toNat '0' ++ digits)
      else if digits.length ≤ point.toNat then
        digits ++ List.replicate (point.toNat - digits.length) '0' ++ ['.', '0']
      else digits.take point.toNat ++ '.' :: digits.drop point.toNat
    else
      let fraction := digits.drop 1
      digits.take 1 ++ (if fraction.isEmpty then [] else '.' :: fraction)
        ++ 'e' :: exponentText (point - 1)
  if d.negative then '-' :: body else body

/-- The text of a number: the shortest decimal that reads back, always with a point or an
exponent, so that it is told from an integer. -/
def text : Binary64 → String
  | .nan => "nan"
  | .infinite n => if n then "-inf" else "inf"
  | .finite n s e h => String.ofList (layout (shortest n s e h))

/-! ### Fixed layouts -/

/-- The absolute value rounded to `places` digits after the point, a tie going to the even digit,
as the natural number of units in the last place. -/
def roundPlaces (x : Binary64) (places : Nat) : Nat :=
  match x.toRatio with
  | some (num, den) => roundQuotient (num * Nat.pow 10 places) den
  | none => 0

/-- The exponent of the leading decimal digit of a positive ratio. -/
def decimalLog (significand exponent : Nat) : Int :=
  let d := exact false significand exponent
  d.digitText.length + d.exponent - 1

/-- The absolute value of a finite nonzero number rounded to `count` significant digits: the digits
as one natural number and the exponent of the leading one. -/
def roundDigits (significand exponent count : Nat) : Nat × Int :=
  let d := exact false significand exponent
  let length := d.digitText.length
  let lead := decimalLog significand exponent
  if length ≤ count then (d.digits * Nat.pow 10 (count - length), lead)
  else
    let q := roundQuotient d.digits (Nat.pow 10 (length - count))
    if q < Nat.pow 10 count then (q, lead) else (q / 10, lead + 1)

end Binary64

end Lockable
