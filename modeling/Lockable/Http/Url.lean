import Lockable.Http.HostName
import Lockable.Text.LetterCase
import Lockable.Text.Percent
import Lockable.Text.Quoted

/-!
# Addresses

An address in its five parts, each **as it is sent**: letters of the scheme and the host lowered, a
default port left out, dot segments of the path resolved, and every character that may not stand
where it stands percent-encoded. An escape that is there already stays as it is.

* `Url.parse` reads an address or a reference, `Url.text` writes it.
* `Url.extend` puts a path **below** an address, whatever the address already has.
* `Url.join` resolves a reference against an address, so that the result may lie elsewhere.
-/

namespace Lockable

/-- An address, or a reference when it has no scheme or no host. -/
structure Url where
  scheme : String := ""
  userInfo : String := ""
  host : String := ""
  port : Option Int := none
  path : String := ""
  query : Option String := none
  fragment : Option String := none
  deriving DecidableEq, Repr

namespace Url

/-- Why a text is no address. -/
inductive Fault where
  | tooLong
  | partTooLong (part : String)
  | control (c : Char) (index : Nat)
  | badPort (text : String)
  | badHost (fault : HostFault)
  | pathAfterHost
  | twoSlashes
  | leadingColon
  deriving DecidableEq, Repr

/-- The words for a fault. -/
def Fault.message : Fault → String
  | .tooLong => "URL too long"
  | .partTooLong part => s!"URL component '{part}' too long"
  | .control c index =>
    let shown := Text.quoted (String.ofList [c])
    s!"Invalid non-printable ASCII character in URL, {shown} at position {index}."
  | .badPort text => s!"Invalid port: {Text.quoted text}"
  | .badHost fault => fault.message
  | .pathAfterHost => "For absolute URLs, path must be empty or begin with '/'"
  | .twoSlashes => "Relative URLs cannot have a path starting with '//'"
  | .leadingColon => "Relative URLs cannot have a path starting with ':'"

/-! ### Characters -/

/-- The printable characters of ASCII but those named. -/
def isSafeBut (except : List Char) (c : Char) : Bool :=
  32 ≤ c.toNat && c.toNat < 127 && !except.contains c

/-- The characters that a fragment may hold. -/
def isFragmentSafe : Char → Bool := isSafeBut [' ', '"', '<', '>', Char.ofNat 0x60]

/-- The characters that a query may hold. -/
def isQuerySafe : Char → Bool := isSafeBut [' ', '"', '#', '<', '>']

/-- The characters that a path may hold. -/
def isPathSafe : Char → Bool :=
  isSafeBut [' ', '"', '#', '<', '>', '?', Char.ofNat 0x60, '\x7b', '\x7d']

/-- The characters that the user's name and password may hold. -/
def isUserSafe : Char → Bool :=
  isSafeBut [' ', '"', '#', '<', '>', '?', Char.ofNat 0x60, '\x7b', '\x7d', '/', ';', '=', '@', '[',
    '\\', ']', '^', '|']

/-- A text with the characters outside a set encoded. -/
def encode (isSafe : Char → Bool) (s : String) : String :=
  String.ofList (Percent.encodeWith isSafe s.toList)

/-! ### Parts -/

/-- The parts of an address before they are brought into form. -/
structure Parts where
  scheme : String := ""
  authority : String := ""
  path : String := ""
  query : Option String := none
  fragment : Option String := none

/-- The text before the first of these characters and what follows, from that character on. -/
def cutAt (stops : List Char) (cs : List Char) : List Char × List Char :=
  (cs.takeWhile (!stops.contains ·), cs.dropWhile (!stops.contains ·))

/-- The scheme in front of a text, and the rest after its colon. -/
def takeScheme (cs : List Char) : List Char × List Char :=
  let isPart (c : Char) : Bool := c.isAlphanum || c = '+' || c = '.' || c = '-'
  let scheme := cs.takeWhile isPart
  let begins := match scheme with
    | c :: _ => c.isAlpha
    | [] => true
  match cs.dropWhile isPart with
  | ':' :: rest => if begins then (scheme, rest) else ([], cs)
  | _ => ([], cs)

/-- The authority in front of a text, after two slashes, and the rest. -/
def takeAuthority : List Char → List Char × List Char
  | '/' :: '/' :: rest => cutAt ['/', '?', '#'] rest
  | cs => ([], cs)

/-- The part after a mark, up to some characters. -/
def takeMarked (mark : Char) (stops : List Char) : List Char → Option String × List Char
  | c :: rest =>
    if c = mark then
      let (part, rest) := cutAt stops rest
      (some (String.ofList part), rest)
    else (none, c :: rest)
  | [] => (none, [])

/-- The parts of a text. -/
def split (cs : List Char) : Parts :=
  let (scheme, cs) := takeScheme cs
  let (authority, cs) := takeAuthority cs
  let (path, cs) := cutAt ['?', '#'] cs
  let (query, cs) := takeMarked '?' ['#'] cs
  let (fragment, _) := takeMarked '#' [] cs
  { scheme := String.ofList scheme, authority := String.ofList authority,
    path := String.ofList path, query, fragment }

/-- The user, the host and the port of an authority: the user ends at the **last** `@`. -/
def splitAuthority (cs : List Char) : List Char × List Char × List Char :=
  let (user, rest) :=
    if cs.contains '@' then
      let after := (cs.reverse.takeWhile (· ≠ '@')).reverse
      (cs.take (cs.length - after.length - 1), after)
    else ([], cs)
  let (host, rest) :=
    if rest.head? = some '[' && rest.contains ']' then
      let after := (rest.reverse.takeWhile (· ≠ ']')).reverse
      (rest.take (rest.length - after.length), after)
    else cutAt [':', '@'] rest
  match rest with
  | ':' :: port => (user, host, port)
  | port => (user, host, port)

/-- The default ports of schemes. -/
def defaultPort? (scheme : String) : Option Int :=
  if scheme = "http" ∨ scheme = "ws" then some 80
  else if scheme = "https" ∨ scheme = "wss" then some 443
  else if scheme = "ftp" then some 21
  else none

/-- The number of a port, if it is one; no digits at all are no port. -/
def readPort (scheme : String) (cs : List Char) : Except Fault (Option Int) :=
  if cs.isEmpty then .ok none
  else
    let body := Text.trimWhile Text.isBlank cs
    let (negative, digits) := match body with
      | '-' :: ds => (true, ds)
      | '+' :: ds => (false, ds)
      | ds => (false, ds)
    if digits.isEmpty || !digits.all Char.isDigit then .error (.badPort (String.ofList cs))
    else
      let n : Int := digits.foldl (fun n d => n * 10 + (d.toNat - 48)) 0
      let n := if negative then -n else n
      .ok (if defaultPort? scheme = some n then none else some n)

/-- One segment after those that are already resolved: `..` takes the last one back, unless it is
the empty one in front. -/
def pushSegment (done : List (List Char)) (segment : List Char) : List (List Char) :=
  if segment = ['.'] then done
  else if segment = ['.', '.'] then
    if done = [] ∨ done = [[]] then done else done.dropLast
  else done ++ [segment]

/-- A path with its dot segments resolved. -/
def resolveDots (path : String) : String :=
  let segments := Text.splitOn (· = '/') path.toList
  if segments.contains ['.'] || segments.contains ['.', '.'] then
    String.ofList (['/'].intercalate (segments.foldl pushSegment []))
  else path

/-- Brings parts into the form in which they are sent. -/
def assemble (p : Parts) : Except Fault Url := do
  let (user, host, port) := splitAuthority p.authority.toList
  let userInfo := encode isUserSafe (String.ofList user)
  let host ← match encodeHost (String.ofList host) with
    | .ok host => .ok host
    | .error fault => .error (.badHost fault)
  let port ← readPort p.scheme port
  let hasAuthority := userInfo ≠ "" ∨ host ≠ "" ∨ port.isSome
  if hasAuthority ∧ p.path ≠ "" ∧ p.path.toList.head? ≠ some '/' then .error .pathAfterHost
  else if ¬hasAuthority ∧ p.scheme = "" ∧ ['/', '/'].isPrefixOf p.path.toList then
    .error .twoSlashes
  else if ¬hasAuthority ∧ p.scheme = "" ∧ p.path.toList.head? = some ':' then .error .leadingColon
  else
    let path := if p.scheme ≠ "" ∨ hasAuthority then resolveDots p.path else p.path
    return {
      scheme := Text.lower p.scheme
      userInfo
      host
      port
      path := encode isPathSafe path
      query := p.query.map (encode isQuerySafe)
      fragment := p.fragment.map (encode isFragmentSafe) }

/-- The longest text that an address or a part of one may be. -/
def maxLength : Nat := 65536

/-- Reads an address or a reference. -/
def parse (s : String) : Except Fault Url :=
  let cs := s.toList
  if maxLength < cs.length then .error .tooLong
  else
    match cs.findIdx? fun c => c.toNat < 32 || c.toNat = 127 with
    | some i => .error (.control (cs.getD i ' ') i)
    | none => assemble (split cs)

/-! ### Writing -/

/-- Host and port. -/
def place (u : Url) : String :=
  let host := if u.host.toList.contains ':' then "[" ++ u.host ++ "]" else u.host
  match u.port with
  | some n => s!"{host}:{n}"
  | none => host

/-- User, host and port. -/
def authority (u : Url) : String :=
  if u.userInfo = "" then u.place else u.userInfo ++ "@" ++ u.place

/-- An address as text. -/
def text (u : Url) : String :=
  (if u.scheme = "" then "" else u.scheme ++ ":")
    ++ (if u.authority = "" then "" else "//" ++ u.authority)
    ++ u.path
    ++ (match u.query with
      | some q => "?" ++ q
      | none => "")
    ++ (match u.fragment with
      | some f => "#" ++ f
      | none => "")

/-- The parts of an address. -/
def parts (u : Url) : Parts :=
  { scheme := u.scheme, authority := u.authority, path := u.path, query := u.query,
    fragment := u.fragment }

/-- An address from changed parts, none of which may be too long. -/
def rebuild (p : Parts) : Except Fault Url :=
  let long (s : String) : Bool := maxLength < s.toList.length
  if long p.authority then .error (.partTooLong "authority")
  else if long p.path then .error (.partTooLong "path")
  else if p.query.any long then .error (.partTooLong "query")
  else assemble p

/-! ### Extending and joining -/

/-- Whether an address says where to go without another one. -/
def isAbsolute (u : Url) : Bool := u.scheme ≠ "" && u.host ≠ ""

/-- Path and query as one text; an empty path is `/`. -/
def target (u : Url) : String :=
  (if u.path = "" then "/" else u.path)
    ++ match u.query with
      | some q => "?" ++ q
      | none => ""

/-- An address with another path and query, split at the first `?`. -/
def withTarget (u : Url) (target : String) : Except Fault Url :=
  let (path, rest) := cutAt ['?'] target.toList
  let query := match rest with
    | _ :: q => some (String.ofList q)
    | [] => none
  rebuild { u.parts with path := String.ofList path, query }

/-- An address whose path and query end in a slash, so that paths can be put below it. -/
def directory (u : Url) : Except Fault Url :=
  if u.target.toList.getLast? = some '/' then .ok u else u.withTarget (u.target ++ "/")

/-- The address of a path below a directory. An absolute address stands for itself. -/
def extend (directory : Url) (reference : String) : Except Fault Url := do
  let r ← parse reference
  if r.isAbsolute then return r
  else
    directory.withTarget
      (directory.target ++ String.ofList (r.target.toList.dropWhile (· = '/')))

/-- An address with the fields of a form as its query. -/
def withForm (u : Url) (fields : List (String × String)) : Except Fault Url :=
  let query := "&".intercalate
    (fields.map fun f => Percent.encodeForm f.1 ++ "=" ++ Percent.encodeForm f.2)
  rebuild { u.parts with query := some query }

/-- The path of a reference against the path of an address: its last segment gives way. -/
def joinPath (base reference : String) : String :=
  let split (s : String) : List (List Char) := Text.splitOn (· = '/') s.toList
  let baseSegments := (split base).dropLast
    ++ (if (split base).getLast? = some [] then [[]] else [])
  let own := split reference
  let segments :=
    if reference.toList.head? = some '/' then own
    else
      let all := baseSegments ++ own
      all.take 1 ++ ((all.drop 1).dropLast.filter (!·.isEmpty))
        ++ (if all.length ≤ 1 then [] else all.drop (all.length - 1))
  let step (done : List (List Char)) (segment : List Char) : List (List Char) :=
    if segment = ['.', '.'] then done.dropLast
    else if segment = ['.'] then done
    else done ++ [segment]
  let resolved := segments.foldl step []
  let last := segments.getLast?.getD []
  let resolved := if last = ['.'] ∨ last = ['.', '.'] then resolved ++ [[]] else resolved
  let text := String.ofList (['/'].intercalate resolved)
  if text = "" then "/" else text

/-- The address that a reference means when it is met at another address. -/
def join (base reference : Url) : Except Fault Url :=
  let given (s : Option String) : Option String := s.filter (· ≠ "")
  if reference.scheme ≠ "" ∧ reference.scheme ≠ base.scheme then .ok reference
  else
    let result : Url :=
      if reference.authority ≠ "" then { reference with scheme := base.scheme }
      else if reference.path = "" then
        { base with query := given reference.query <|> given base.query
                    fragment := reference.fragment }
      else
        let path := joinPath base.path reference.path
        { base with path := if path.toList.head? = some '/' then path else "/" ++ path
                    query := reference.query
                    fragment := reference.fragment }
    parse { result with query := given result.query, fragment := given result.fragment }.text

/-! ### Origins -/

/-- The port that is meant where none is written. -/
def effectivePort (u : Url) : Option Int :=
  match u.port with
  | some n => some n
  | none => if u.scheme = "http" then some 80 else if u.scheme = "https" then some 443 else none

/-- Whether two addresses have scheme, host and port in common. -/
def sameOrigin (u v : Url) : Bool :=
  u.scheme = v.scheme && u.host = v.host && u.effectivePort = v.effectivePort

/-- Whether the second address is the first one made secure: the same host, at the default ports. -/
def isUpgrade (u v : Url) : Bool :=
  u.host = v.host && u.scheme = "http" && u.effectivePort = some 80
    && v.scheme = "https" && v.effectivePort = some 443

/-- The path as it is meant, escapes decoded. -/
def decodedPath (u : Url) : String :=
  String.ofList (Percent.decode (if u.path = "" then ['/'] else u.path.toList))

/-- The user's name and password as they are meant. -/
def user (u : Url) : String × String :=
  let (name, rest) := cutAt [':'] u.userInfo.toList
  (String.ofList (Percent.decode name), String.ofList (Percent.decode (rest.drop 1)))

end Url

end Lockable
