import Lockable.Json.Reader
import Lockable.Text.Charset

/-!
# JSON from octets

The octets of an answer as JSON. Which form of Unicode they are in shows in where the first zeros
stand, since JSON begins with two characters of ASCII; a mark at the beginning decides it. Octets
that are no text are **refused**, not replaced, but halves of pairs pass.
-/

namespace Lockable.Json

/-- Why octets are no JSON. -/
inductive OctetFault where
  /-- They are no text: the form they were read in, the octets, the run that is no character, and
  why. -/
  | notText (form : String) (octets : List UInt8) (start stop : Nat) (reason : String)
  /-- They are a text that is no JSON. -/
  | notJson (message : String)
  /-- They have an integer of so many digits. -/
  | tooLong (digits : Nat)
  deriving DecidableEq, Repr

/-- How a fault is shown inside another message. -/
def OctetFault.shown : OctetFault → String
  | .notText form octets start stop reason =>
    s!"UnicodeDecodeError({Text.quoted form}, {Text.quotedOctets octets}, {start}, {stop}, "
      ++ Text.quoted reason ++ ")"
  | .notJson message => s!"JSONDecodeError({Text.quoted message})"
  | .tooLong digits => s!"ValueError({Text.quoted (tooManyDigits digits)})"

/-- A form of Unicode. -/
inductive Form where
  | eight
  | sixteen (big : Bool)
  | thirtyTwo (big : Bool)
  deriving DecidableEq, Repr

/-- The name of a form. -/
def Form.name : Form → String
  | .eight => "utf-8"
  | .sixteen big => if big then "utf-16-be" else "utf-16-le"
  | .thirtyTwo big => if big then "utf-32-be" else "utf-32-le"

/-- The form of octets and how many of them are a mark. -/
def detectForm : List UInt8 → Form × Nat
  | 0x00 :: 0x00 :: 0xFE :: 0xFF :: _ => (.thirtyTwo true, 4)
  | 0xFF :: 0xFE :: 0x00 :: 0x00 :: _ => (.thirtyTwo false, 4)
  | 0xFE :: 0xFF :: _ => (.sixteen true, 2)
  | 0xFF :: 0xFE :: _ => (.sixteen false, 2)
  | 0xEF :: 0xBB :: 0xBF :: _ => (.eight, 3)
  | a :: b :: c :: d :: _ =>
    if a = 0 then (if b = 0 then .thirtyTwo true else .sixteen true, 0)
    else if b = 0 then (if c = 0 ∧ d = 0 then .thirtyTwo false else .sixteen false, 0)
    else (.eight, 0)
  | [a, b] =>
    if a = 0 then (.sixteen true, 0)
    else if b = 0 then (.sixteen false, 0)
    else (.eight, 0)
  | _ => (.eight, 0)

/-- The codes of four octets each; none where octets are left over. -/
def quads (big : Bool) : List UInt8 → List Nat × List UInt8
  | a :: b :: c :: d :: rest =>
    let code (w x y z : UInt8) : Nat :=
      ((w.toNat * 256 + x.toNat) * 256 + y.toNat) * 256 + z.toNat
    let (more, left) := quads big rest
    ((if big then code a b c d else code d c b a) :: more, left)
  | left => ([], left)

/-- The first fault of units that follow `start` octets, where an octet is left over at the end. A
half that would pass without it counts as a fault then. -/
def unitFault (start : Nat) : List Nat → Nat × Nat × String
  | [] => (start, start + 1, "truncated data")
  | [u] =>
    if Half.isLow u then (start, start + 2, "illegal encoding")
    else if Half.isHigh u then (start, start + 3, "unexpected end of data")
    else (start + 2, start + 3, "truncated data")
  | u :: v :: rest =>
    if Half.isLow u then (start, start + 2, "illegal encoding")
    else if Half.isHigh u then
      if Half.isLow v then unitFault (start + 4) rest
      else (start, start + 2, "illegal UTF-16 surrogate")
    else unitFault (start + 2) (v :: rest)

/-- The first fault of codes that follow `start` octets, where one is of no character or `left`
octets are left over. -/
def codeFault (start left : Nat) : List Nat → Nat × Nat × String
  | [] => (start, start + left, "truncated data")
  | code :: rest =>
    if 0x110000 ≤ code then (start, start + 4, "code point not in range(0x110000)")
    else if Half.isHigh code || Half.isLow code then
      (start, start + 4, "code point in surrogate code point range(0xd800, 0xe000)")
    else codeFault (start + 4) left rest

/-- The text of octets in their form; half a pair alone is read as told. -/
def textOfOctets (half : Nat → Char) (octets : List UInt8) : Except OctetFault (List Char) :=
  let (form, mark) := detectForm octets
  let body := octets.drop mark
  match form with
  | .eight =>
    match Utf8.fault? 0 body, Utf8.decodeHalves? half body with
    | none, _ => .ok (Utf8.decode body)
    | some _, some cs => .ok cs
    | some f, none => .error (.notText form.name body f.start f.stop f.flaw.text)
  | .sixteen big =>
    let (us, odd) := Charset.units big body
    if odd then
      let (start, stop, reason) := unitFault mark us
      .error (.notText form.name octets start stop reason)
    else .ok (Charset.decodeUnits half us)
  | .thirtyTwo big =>
    let (codes, left) := quads big body
    if codes.any (0x110000 ≤ ·) || !left.isEmpty then
      let (start, stop, reason) := codeFault mark left.length codes
      .error (.notText form.name octets start stop reason)
    else .ok (codes.map (Half.charOf half))

/-- Reads JSON from octets; half a pair alone is read as told. -/
def readHalves (half : Nat → Char) (octets : List UInt8) : Except OctetFault Json := do
  let cs ← textOfOctets half octets
  match readChars half cs with
  | .ok j => return j
  | .error ⟨.tooLong digits, _⟩ => .error (.tooLong digits)
  | .error f => .error (.notJson (f.message cs))

/-- Reads JSON from octets. -/
def readOctets : List UInt8 → Except OctetFault Json := readHalves Half.lost

end Lockable.Json
