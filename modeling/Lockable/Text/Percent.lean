import Lockable.Text.Utf8

/-!
# Percent encoding

Octets as `%` and two upper-case hexadecimal digits, and back. Three sets of characters are left as
they are: `isComponentSafe` for a component of an address, `isFormSafe` for a form, where a space
becomes `+`, and whatever set a caller gives.
-/

namespace Lockable.Percent

/-- The upper-case hexadecimal digit of a number below sixteen. -/
def hexDigit (n : Nat) : Char :=
  if n < 10 then Char.ofNat (48 + n) else Char.ofNat (55 + n)

/-- An octet as `%` and two digits. -/
def escape (b : UInt8) : List Char := ['%', hexDigit (b.toNat / 16), hexDigit (b.toNat % 16)]

/-- A character as the escapes of its octets. -/
def escapeChar (c : Char) : List Char := (Utf8.encodeChar c).flatMap escape

/-- Encodes the characters outside a set. -/
def encodeWith (isSafe : Char → Bool) (cs : List Char) : List Char :=
  cs.flatMap fun c => if isSafe c then [c] else escapeChar c

/-- Letters and digits of ASCII and the four marks that are never encoded. -/
def isUnreserved (c : Char) : Bool :=
  c.isAlphanum || c = '-' || c = '_' || c = '.' || c = '~'

/-- The characters that a component of an address shows as they are. -/
def isComponentSafe (c : Char) : Bool :=
  isUnreserved c || c = '!' || c = '\'' || c = '(' || c = ')' || c = '*'

/-- A text as one component of an address. -/
def encodeComponent (s : String) : String := String.ofList (encodeWith isComponentSafe s.toList)

/-- One character of a form: a space becomes `+`, a letter, digit or mark stays. -/
def encodeFormChar (c : Char) : List Char :=
  if c = ' ' then ['+'] else if isUnreserved c then [c] else escapeChar c

/-- A text as a key or value of a form. -/
def encodeForm (s : String) : String := String.ofList (s.toList.flatMap encodeFormChar)

/-! ### Decoding -/

/-- The value of a hexadecimal digit of either case. -/
def hexValue? (c : Char) : Option Nat :=
  let n := c.toNat
  if 48 ≤ n ∧ n ≤ 57 then some (n - 48)
  else if 65 ≤ n ∧ n ≤ 70 then some (n - 55)
  else if 97 ≤ n ∧ n ≤ 102 then some (n - 87)
  else none

/-- The octets that a text stands for: an escape for its octet, any other character for its own
octets. -/
def octets : List Char → List UInt8
  | '%' :: a :: b :: rest =>
    match hexValue? a, hexValue? b with
    | some x, some y => UInt8.ofNat (x * 16 + y) :: octets rest
    | _, _ => Utf8.encodeChar '%' ++ octets (a :: b :: rest)
  | c :: rest => Utf8.encodeChar c ++ octets rest
  | [] => []

/-- The text that a percent-encoded text stands for. -/
def decode (cs : List Char) : List Char := Utf8.decode (octets cs)

/-- The text that a key or value of a form stands for. -/
def decodeForm (cs : List Char) : List Char := decode (cs.map fun c => if c = '+' then ' ' else c)

end Lockable.Percent
