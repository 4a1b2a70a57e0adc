import Lockable.Http.Status
import Lockable.Http.Url
import Lockable.Text.Base64
import Lockable.Text.Charset

/-!
# Requests and replies

What is sent to a server and what comes back. The body of a reply is kept as octets.

What reads a body as text (`Reading`) is not part of this library. It may fail, and of that nothing
is known but that an empty body is never refused. `Reading.standard` reads a body in the character
set that the reply names, and in UTF-8 where it names none that is known.
-/

namespace Lockable.Http

/-- The methods in use. -/
inductive Method where
  | get
  | post
  deriving DecidableEq, Repr

/-- The word for a method. -/
def Method.word : Method → String
  | .get => "GET"
  | .post => "POST"

/-- A request as it is sent. -/
structure Request where
  method : Method
  url : Url
  body : String := ""
  contentType : Option String := none
  authorization : Option String := none
  deriving DecidableEq, Repr

/-- What reads the body of a reply as text: from the type that the reply names, if it names one, and
from the octets. -/
structure Reading where
  text : Option String → List UInt8 → Except Foreign String
  empty : ∀ type, text type [] = .ok ""

/-- What a server answers. A status has three digits at most. -/
structure Reply where
  status : Nat
  status_lt : status < 1000 := by decide
  headers : List (String × String) := []
  body : List UInt8 := []
  deriving DecidableEq, Repr

/-- The header of a user's name and password. -/
def basicAuthorization (name password : String) : String :=
  "Basic " ++ String.ofList (Base64.encode (Utf8.encode (name ++ ":" ++ password).toList))

namespace Reading

/-- The text without quotes around it. -/
def unquote (cs : List Char) : List Char :=
  match cs with
  | '"' :: rest => if rest.getLast? = some '"' then rest.dropLast else cs
  | _ => cs

/-- The character set that a content type names, if it names one that is known. -/
def charsetOf (contentType : String) : Option Charset :=
  let parts := Text.splitOn (· = ';') contentType.toList
  let value := parts.findSome? fun part =>
    let name := part.takeWhile (· ≠ '=')
    if (Text.trimWhile Text.isBlank name).map Char.toLower = "charset".toList then
      some (unquote (Text.trimWhile Text.isBlank ((part.dropWhile (· ≠ '=')).drop 1)))
    else none
  value.bind fun cs => Charset.named? (String.ofList cs)

/-- The reading in the character set that is named. -/
def standard : Reading where
  text type octets :=
    if octets.isEmpty then .ok ""
    else (((type.bind charsetOf).getD .utf8).decode octets).map String.ofList
  empty _ := rfl

instance : Inhabited Reading := ⟨standard⟩

end Reading

namespace Reply

/-- The reply that all is well, with a text. -/
def ofText (text : String) : Reply := { status := 200, body := Utf8.encode text.toList }

/-- The value of a header; the values of one that is repeated are joined. -/
def header? (name : String) (r : Reply) : Option String :=
  match r.headers.filter fun h => Text.asciiLower h.1 = Text.asciiLower name with
  | [] => none
  | found => some (", ".intercalate (found.map (·.2)))

/-- The body as text. -/
def text (reading : Reading) (r : Reply) : Except Failure String :=
  (reading.text (r.header? "content-type") r.body).mapError Foreign.failure

/-- The standard phrase for the status. -/
def phrase (r : Reply) : String := Http.phrase r.status

/-- Whether the server refuses or has failed. -/
def isError (r : Reply) : Bool := 400 ≤ r.status && r.status < 600

/-- Whether the server has done what was asked. -/
def isSuccess (r : Reply) : Bool := 200 ≤ r.status && r.status < 300

/-- Where a redirect leads. -/
def redirect? (r : Reply) : Option String :=
  if r.status ∈ [301, 302, 303, 307, 308] then r.header? "location" else none

/-- What a server that refuses has to say: its text, or else the phrase for the status. -/
def complaint (reading : Reading) (r : Reply) : Except Failure String := do
  let words := Text.strip (← r.text reading)
  return if words.isEmpty then r.phrase else words

/-- Where the meaning of status codes is explained. -/
def statusGuide : String := "developer.mozilla.org/en-US/docs/Web/HTTP/Status/"

/-- The words for a status that is no success. -/
def statusWords (url : Url) (r : Reply) : String :=
  let kind := match r.status / 100 with
    | 1 => "Informational response"
    | 3 => "Redirect response"
    | 4 => "Client error"
    | 5 => "Server error"
    | _ => "Invalid status code"
  s!"{kind} '{r.status} {r.phrase}' for url '{url.text}'\nFor more information check: https:/"
    ++ s!"/{statusGuide}{r.status}"

end Reply

end Lockable.Http
