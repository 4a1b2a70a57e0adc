import Lockable.Http.Message
import Lockable.Keyed

/-!
# Exchanges

A request, and what finally comes of it. A **transport** takes one request to a server of some kind
and brings back its reply, or the words for why there is none. `Wire.exchange` follows redirects
from there: an answer that leads elsewhere is asked for elsewhere, up to twenty times.

On the way to another origin the authorization is left behind; a POST that has become a GET has
lost its body but not the type that its body had.

A request has the headers that the client sets. What else goes with it (cookies, and what says how
the connection is kept) is left out, and so is how long an answer takes.
-/

namespace Lockable.Http

/-- A way to servers with a state of type `σ`. -/
abbrev Transport (σ : Type) : Type := Request → σ → Except String Reply × σ

/-- The state of the server and what has been sent to it. -/
structure Wire (σ : Type) where
  server : σ
  sent : List Request := []

/-- Why an exchange came to nothing. -/
inductive Breakdown where
  /-- The transport has failed, in these words. -/
  | transport (words : String)
  /-- There is no such address. -/
  | address (fault : Url.Fault)
  deriving DecidableEq, Repr

/-- How often a redirect is followed. -/
def maxRedirects : Nat := 20

/-- The method after a redirect. -/
def redirectedMethod (status : Nat) : Method → Method
  | .post => if status ∈ [301, 302, 303] then .get else .post
  | .get => .get

/-- The address that a redirect leads to. -/
def redirectedUrl (u : Url) (location : String) : Except Breakdown Url :=
  match Url.parse location with
  | .error fault =>
    .error (.transport s!"Invalid URL in location header: {fault.message}.")
  | .ok target =>
    let placed :=
      if target.scheme ≠ "" ∧ target.host = "" then
        Url.rebuild { target.parts with authority := Url.place { host := u.host } }
      else .ok target
    match placed with
    | .error fault => .error (.address fault)
    | .ok target =>
      let joined := if target.isAbsolute then .ok target else u.join target
      match joined with
      | .error fault => .error (.address fault)
      | .ok target =>
        .ok (if target.fragment.isNone then { target with fragment := u.fragment } else target)

/-- The request that a redirect asks for. -/
def redirected (r : Request) (status : Nat) (location : String) : Except Breakdown Request := do
  let url ← redirectedUrl r.url location
  let method := redirectedMethod status r.method
  let keeps := url.sameOrigin r.url || r.url.isUpgrade url
  return {
    method
    url
    body := if method = r.method then r.body else ""
    contentType := r.contentType
    authorization := if keeps then r.authorization else none }

variable {σ : Type}

/-- Sends one request. -/
def Wire.send (transport : Transport σ) (r : Request) (w : Wire σ) : Except String Reply × Wire σ :=
  let (outcome, server) := transport r w.server
  (outcome, { server, sent := w.sent ++ [r] })

/-- Sends a request and follows redirects, as often as `fuel` allows. What comes back is the last
reply with the address that it came from. -/
def Wire.follow (transport : Transport σ) :
    Nat → Request → Wire σ → Except Breakdown (Reply × Url) × Wire σ
  | 0, _, w => (.error (.transport "Exceeded maximum allowed redirects."), w)
  | fuel + 1, r, w =>
    match w.send transport r with
    | (.error words, w) => (.error (.transport words), w)
    | (.ok reply, w) =>
      match reply.redirect? with
      | none => (.ok (reply, r.url), w)
      | some location =>
        match redirected r reply.status location with
        | .error e => (.error e, w)
        | .ok next => follow transport fuel next w

/-- Sends a request and follows redirects. -/
def Wire.exchange (transport : Transport σ) (r : Request) (w : Wire σ) :
    Except Breakdown (Reply × Url) × Wire σ :=
  w.follow transport (maxRedirects + 1) r

/-! ### Scripted servers -/

/-- What a scripted server does with a request: it fails in some words, or replies. -/
inductive Turn where
  | fails (words : String)
  | replies (r : Reply)
  deriving DecidableEq, Repr

/-- A script: for every method and path what is done with the requests for it, in turn. The last
turn is repeated. -/
abbrev Script : Type := List (String × List Turn)

namespace Script

/-- The line of a script that a request belongs to. -/
def route (r : Request) : String := r.method.word ++ " " ++ r.url.decodedPath

/-- The transport to a scripted server. What is not in the script is not found. -/
def transport : Transport Script := fun r script =>
  match Keyed.find? (route r) script with
  | some (turn :: rest) =>
    let script := if rest.isEmpty then script else Keyed.insert (route r) rest script
    match turn with
    | .fails words => (.error words, script)
    | .replies reply => (.ok reply, script)
  | _ => (.ok { status := 404 }, script)

end Script

end Lockable.Http
