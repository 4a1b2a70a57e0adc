import Lockable.Failure
import Lockable.Json.Display

/-!
# Timestamps

The moment of a record, given in seconds since the beginning of 1970 with or without a fraction,
as the date and time of the Gregorian calendar in universal time, to the second.

* `Calendar.ofDays` is the date of a day; every four hundred years have the same length, and the
  year is counted from March so that the leap day comes last.
* `Timestamp.seconds` rounds the fraction to the nearest **millionth** first, a tie to the even one,
  so that the last half millionth of a second already belongs to the next.
-/

namespace Lockable

/-- A date of the Gregorian calendar. -/
structure Calendar where
  year : Int
  month : Nat
  day : Nat
  deriving DecidableEq, Repr

/-- The date of a day, counted from the first of January 1970. -/
def Calendar.ofDays (days : Int) : Calendar :=
  let fromMarch := days + 719468
  let era := fromMarch.fdiv 146097
  let dayOfEra := (fromMarch - era * 146097).toNat
  let yearOfEra :=
    (dayOfEra - dayOfEra / 1460 + dayOfEra / 36524 - dayOfEra / 146096) / 365
  let dayOfYear := dayOfEra - (365 * yearOfEra + yearOfEra / 4 - yearOfEra / 100)
  let monthFromMarch := (5 * dayOfYear + 2) / 153
  let day := dayOfYear - (153 * monthFromMarch + 2) / 5 + 1
  let month := if monthFromMarch < 10 then monthFromMarch + 3 else monthFromMarch - 9
  let year : Int := era * 400 + yearOfEra
  ⟨if month ≤ 2 then year + 1 else year, month, day⟩

namespace Timestamp

/-- The moment lies outside what a clock can count. -/
def outsideClock : Failure := .tooLarge "timestamp out of range for platform time_t"

/-- The whole seconds of a moment. -/
def seconds : Json → Except Failure Int
  | .float .nan => .error (.wrongValue "Invalid value NaN (not a number)")
  | .float x =>
    match x.toRatio with
    | none => .error outsideClock
    | some (num, den) =>
      let fraction := Binary64.ofRatio false (num % den) den
      let millionths := (fraction.mul (.ofInt 1000000)).roundPlaces 0
      let carry : Int :=
        if x.isNegative then (if millionths = 0 then 0 else -1)
        else if 1000000 ≤ millionths then 1 else 0
      if -9223372036854775808 ≤ x.truncate ∧ x.truncate < 9223372036854775808 then
        .ok (x.truncate + carry)
      else .error outsideClock
  | value =>
    match value.worth with
    | none => .error (.wrongType s!"'{value.kind}' object cannot be interpreted as an integer")
    | some n =>
      if -9223372036854775808 ≤ n ∧ n < 9223372036854775808 then .ok n else .error outsideClock

/-- A number in at least `count` digits. -/
def padded (count n : Nat) : List Char :=
  let digits := Nat.toDigits 10 n
  List.replicate (count - digits.length) '0' ++ digits

/-- A moment as text. Only the years from 1 to 9999 have one. -/
def text (moment : Json) : Except Failure String := do
  let n ← seconds moment
  let date := Calendar.ofDays (n.fdiv 86400)
  let second := (n - n.fdiv 86400 * 86400).toNat
  if date.year < -2147481748 ∨ 2147485547 < date.year then .error .outsideCalendar
  else if date.year < 1 ∨ 9999 < date.year then
    .error (.wrongValue s!"year {date.year} is out of range")
  else
    return String.ofList (padded 4 date.year.toNat ++ '-' :: padded 2 date.month
      ++ '-' :: padded 2 date.day ++ 'T' :: padded 2 (second / 3600)
      ++ ':' :: padded 2 (second / 60 % 60) ++ ':' :: padded 2 (second % 60)
      ++ "+00:00".toList)

end Timestamp

end Lockable
