import Lockable.Failure
import Lockable.Text.Utf8

/-!
# Character sets

How the octets of an answer are read as text. What is no character becomes U+FFFD, but that does not
let every character set read all octets: UTF-16 without a mark wants one, and some names are not of
a set of characters at all. The name of a character set is looked up without regard to case or to
the marks between its parts.

The sets with a table of their own are but the commonest here. A name that is not among
`Charset.names` is no known one.
-/

namespace Lockable

/-- A character set. -/
inductive Charset where
  | utf8
  | utf8Marked
  | utf16
  | utf16Little
  | utf16Big
  | ascii
  | latin1
  | latin9
  | windows1252
  /-- What turns letters round in a text, and so reads no octets. -/
  | letters
  /-- What turns octets into others, and so makes no text. -/
  | packing
  /-- What refuses everything. -/
  | undefined
  deriving DecidableEq, Repr

namespace Charset

/-- The names of character sets, in lower case with `_` between their parts. -/
def names : List (String × Charset) :=
  [("utf_8", utf8), ("utf8", utf8), ("u8", utf8), ("utf", utf8), ("cp65001", utf8),
   ("utf8_ucs2", utf8), ("utf8_ucs4", utf8),
   ("utf_8_sig", utf8Marked),
   ("utf_16", utf16), ("utf16", utf16), ("u16", utf16),
   ("utf_16_le", utf16Little), ("utf_16le", utf16Little), ("unicodelittleunmarked", utf16Little),
   ("utf_16_be", utf16Big), ("utf_16be", utf16Big), ("unicodebigunmarked", utf16Big),
   ("ascii", ascii), ("us_ascii", ascii), ("us", ascii), ("646", ascii), ("cp367", ascii),
   ("csascii", ascii), ("ibm367", ascii), ("iso_ir_6", ascii), ("iso646_us", ascii),
   ("iso_646.irv_1991", ascii), ("ansi_x3.4_1968", ascii), ("ansi_x3_4_1968", ascii),
   ("ansi_x3.4_1986", ascii),
   ("latin_1", latin1), ("latin1", latin1), ("latin", latin1), ("l1", latin1),
   ("iso_8859_1", latin1), ("iso8859_1", latin1), ("iso8859", latin1), ("8859", latin1),
   ("iso_8859_1_1987", latin1), ("csisolatin1", latin1), ("ibm819", latin1), ("cp819", latin1),
   ("iso_ir_100", latin1),
   ("iso_8859_15", latin9), ("iso8859_15", latin9), ("latin9", latin9), ("l9", latin9),
   ("cp1252", windows1252), ("windows_1252", windows1252), ("1252", windows1252),
   ("rot_13", letters), ("rot13", letters),
   ("base64_codec", packing), ("base64", packing), ("base_64", packing), ("hex_codec", packing),
   ("hex", packing), ("bz2_codec", packing), ("bz2", packing), ("zlib_codec", packing),
   ("zlib", packing), ("zip", packing), ("quopri_codec", packing), ("quopri", packing),
   ("quoted_printable", packing), ("quotedprintable", packing), ("uu_codec", packing),
   ("uu", packing),
   ("undefined", undefined)]

/-- A name as names are compared: its letters, digits and points in lower case, with `_` for what
lies between them. -/
def plainName (name : String) : List Char :=
  let parts := Text.splitOn (fun c => !c.isAlphanum && c ≠ '.') name.toList
  ['_'].intercalate ((parts.filter (!·.isEmpty)).map (·.map Char.toLower))

/-- The character set of a name. -/
def named? (name : String) : Option Charset :=
  (names.find? fun e => e.1.toList = plainName name).map (·.2)

/-- What stands for octets that are no character. -/
def replacement : Char := Char.ofNat 0xFFFD

/-- The octets from 0x80 to 0x9F in the Windows set; those that stand for nothing are zero. -/
def windowsCodes : List Nat :=
  [0x20AC, 0, 0x201A, 0x0192, 0x201E, 0x2026, 0x2020, 0x2021, 0x02C6, 0x2030, 0x0160, 0x2039,
   0x0152, 0, 0x017D, 0, 0, 0x2018, 0x2019, 0x201C, 0x201D, 0x2022, 0x2013, 0x2014, 0x02DC,
   0x2122, 0x0161, 0x203A, 0x0153, 0, 0x017E, 0x0178]

/-- A character of the Windows set. -/
def windowsChar (b : UInt8) : Char :=
  let n := b.toNat
  if 0x80 ≤ n ∧ n < 0xA0 then
    let code := windowsCodes.getD (n - 0x80) 0
    if code = 0 then replacement else Char.ofNat code
  else Char.ofNat n

/-- A character of the ninth Latin set, which differs from the first in eight places. -/
def latin9Char (b : UInt8) : Char :=
  let n := b.toNat
  let places := [(0xA4, 0x20AC), (0xA6, 0x0160), (0xA8, 0x0161), (0xB4, 0x017D), (0xB8, 0x017E),
    (0xBC, 0x0152), (0xBD, 0x0153), (0xBE, 0x0178)]
  Char.ofNat ((places.lookup n).getD n)

/-- The units of sixteen bits of octets, and whether an octet is left over. -/
def units (big : Bool) : List UInt8 → List Nat × Bool
  | a :: b :: rest =>
    let (more, odd) := units big rest
    ((if big then a.toNat * 256 + b.toNat else b.toNat * 256 + a.toNat) :: more, odd)
  | [_] => ([], true)
  | [] => ([], false)

/-- The characters of units of sixteen bits; half a pair alone is read as told. -/
def decodeUnits (half : Nat → Char) : List Nat → List Char
  | [] => []
  | [u] => [Half.charOf half u]
  | u :: v :: rest =>
    if Half.isHigh u ∧ Half.isLow v then Half.join u v :: decodeUnits half rest
    else Half.charOf half u :: decodeUnits half (v :: rest)

/-- The text of octets in units of sixteen bits. An octet that is left over is no character, nor is
it together with half a pair. -/
def decodeWide (big : Bool) (octets : List UInt8) : List Char :=
  let (us, odd) := units big octets
  decodeUnits Half.lost us ++
    (if odd && !us.getLast?.any Half.isHigh then [replacement] else [])

/-- The text of octets, if they are read at all. -/
def decode : Charset → List UInt8 → Except Foreign (List Char)
  | utf8, bs => .ok (Utf8.decode bs)
  | utf8Marked, 0xEF :: 0xBB :: 0xBF :: bs => .ok (Utf8.decode bs)
  -- octets that only begin a mark are waited on in vain
  | utf8Marked, [0xEF, 0xBB] => .ok []
  | utf8Marked, [0xEF] => .ok []
  | utf8Marked, bs => .ok (Utf8.decode bs)
  | utf16, 0xFE :: 0xFF :: bs => .ok (decodeWide true bs)
  | utf16, 0xFF :: 0xFE :: bs => .ok (decodeWide false bs)
  | utf16, _ :: _ :: _ => .error ⟨"UnicodeError", "UTF-16 stream does not start with BOM"⟩
  | utf16, bs => .ok (decodeWide false bs)
  | utf16Little, bs => .ok (decodeWide false bs)
  | utf16Big, bs => .ok (decodeWide true bs)
  | ascii, bs => .ok (bs.map fun b => if b < 128 then Char.ofNat b.toNat else replacement)
  | latin1, bs => .ok (bs.map fun b => Char.ofNat b.toNat)
  | latin9, bs => .ok (bs.map latin9Char)
  | windows1252, bs => .ok (bs.map windowsChar)
  | letters, _ => .error ⟨"TypeError",
      "descriptor 'translate' for 'str' objects doesn't apply to a 'bytes' object"⟩
  | packing, _ => .error ⟨"AssertionError", ""⟩
  | undefined, _ => .error ⟨"UnicodeError", "undefined encoding"⟩

end Charset

end Lockable
