import Lockable.Text.Blank
import Lockable.Text.LetterCase
import Lockable.Text.Percent
import Lockable.Text.Quoted

/-!
# Host names

The name of a host as it is sent: four numbers, an address in brackets, or a name in lower case. A
name with characters outside ASCII is sent label by label in an encoding of ASCII, which puts the
ASCII characters of a label first and then says where the others go (`Punycode`).
-/

namespace Lockable

/-! ### Labels outside ASCII -/

namespace Punycode

/-- The digit for a number below thirty-six. -/
def digit (n : Nat) : Char := if n < 26 then Char.ofNat (97 + n) else Char.ofNat (22 + n)

/-- How much is taken off a number at a digit: between one and twenty-six. -/
def threshold (bias place : Nat) : Nat :=
  if place ≤ bias + 1 then 1 else if bias + 26 ≤ place then 26 else place - bias

/-- The digits of a number of variable length; `fuel` bounds their count. -/
def digits : Nat → Nat → Nat → Nat → List Char
  | 0, _, _, _ => []
  | fuel + 1, bias, place, q =>
    let t := threshold bias place
    if q < t then [digit q]
    else digit (t + (q - t) % (36 - t)) :: digits fuel bias (place + 36) ((q - t) / (36 - t))

/-- Divides a delta down until it is small; the bias that then holds. -/
def settle : Nat → Nat → Nat → Nat
  | 0, k, delta => k + 36 * delta / (delta + 38)
  | fuel + 1, k, delta =>
    if 455 < delta then settle fuel (k + 36) (delta / 35) else k + 36 * delta / (delta + 38)

/-- The bias after a number. -/
def adapt (delta count : Nat) (first : Bool) : Nat :=
  let delta := if first then delta / 700 else delta / 2
  settle 32 0 (delta + delta / count)

/-- What is known between two numbers. -/
structure State where
  delta : Nat
  bias : Nat
  handled : Nat
  written : List Char

/-- One character of the label while those of the code `n` are written. -/
def step (basic n : Nat) (s : State) (c : Char) : State :=
  if c.toNat < n then { s with delta := s.delta + 1 }
  else if c.toNat = n then
    { delta := 0
      bias := adapt s.delta (s.handled + 1) (s.handled = basic)
      handled := s.handled + 1
      written := s.written ++ digits 32 s.bias 36 s.delta }
  else s

/-- Writes the characters outside ASCII, the least code first; `fuel` bounds the number of codes. -/
def writeRest : Nat → Nat → Nat → List Char → State → State
  | 0, _, _, _, s => s
  | fuel + 1, basic, n, label, s =>
    match ((label.map Char.toNat).filter (n ≤ ·)).min? with
    | none => s
    | some m =>
      let s := { s with delta := s.delta + (m - n) * (s.handled + 1) }
      let s := label.foldl (step basic m) s
      writeRest fuel basic (m + 1) label { s with delta := s.delta + 1 }

/-- A label in ASCII. -/
def encode (label : List Char) : List Char :=
  let plain := label.filter fun c => c.toNat < 128
  let start : State :=
    { delta := 0, bias := 72, handled := plain.length,
      written := if plain.isEmpty then [] else plain ++ ['-'] }
  (writeRest (label.length + 1) plain.length 128 label start).written

end Punycode

/-! ### Hosts -/

/-- Why a text is no host. -/
inductive HostFault where
  | badFour (host : String)
  deriving DecidableEq, Repr

/-- The words for a fault. -/
def HostFault.message : HostFault → String
  | .badFour host => s!"Invalid IPv4 address: {Text.quoted host}"

/-- Whether a text looks like four numbers: runs of digits with one character between them. -/
def looksLikeFour : Nat → List Char → Bool
  | 0, cs => !cs.isEmpty && cs.all Char.isDigit
  | _ + 1, [] => false
  | n + 1, d :: rest =>
    d.isDigit && (looksLikeFour n (rest.drop 1) || looksLikeFour (n + 1) rest)
termination_by _ cs => cs.length

/-- Whether a text is a number below 256 without a leading zero. -/
def isOctet (cs : List Char) : Bool :=
  cs.all Char.isDigit && 1 ≤ cs.length && cs.length ≤ 3 && (cs.length = 1 || cs.head? ≠ some '0')
    && cs.foldl (fun n d => n * 10 + (d.toNat - 48)) 0 < 256

/-- Whether a text is four such numbers with points between them. -/
def isFour (cs : List Char) : Bool :=
  let parts := Text.splitOn (· = '.') cs
  parts.length = 4 && parts.all isOctet

/-- The characters that a name may hold. -/
def isHostSafe (c : Char) : Bool :=
  Percent.isUnreserved c
    || ("!$&'()*+,;=\"%|\\\x7b\x7d".toList ++ [Char.ofNat 0x60]).contains c

/-- A label of a name. -/
def encodeLabel (label : List Char) : List Char :=
  if label.all fun c => c.toNat < 128 then label
  else "xn--".toList ++ Punycode.encode label

/-- A host as it is sent. -/
def encodeHost (host : String) : Except HostFault String :=
  let cs := host.toList
  if looksLikeFour 3 cs then
    if isFour cs then .ok host else .error (.badFour host)
  else if cs.head? = some '[' && cs.getLast? = some ']' then
    .ok (String.ofList ((cs.drop 1).dropLast))
  else
    let cs := (Text.lower host).toList
    if cs.all fun c => c.toNat < 128 then .ok (String.ofList (Percent.encodeWith isHostSafe cs))
    else .ok (String.ofList (['.'].intercalate ((Text.splitOn (· = '.') cs).map encodeLabel)))

end Lockable
