import Lockable.ActionRequest
import Lockable.Audit.Record
import Lockable.Http.Exchange
import Lockable.Json.Octets
import Lockable.Settings

/-!
# The client

Speaks to the server of lockable resources: lists them, submits actions, fetches and saves notes.

Every POST carries the **crumb** that the server issues against forgery. It is asked for once, and
what was then answered holds for the lifetime of the client; that there is none (a plain 404) is an
answer as well. An attempt that fails is not remembered.

`Client.Call` is what the client does in one go: it may change the client, send requests, leave
audit records, and fail. The client after a call that failed is what the call had made of it by
then.

What reads the bodies of answers as text is a part of the client that may fail (`Http.Reading`).
JSON is read however deep it is nested.
-/

namespace Lockable

/-- The crumb: the name of its field and its value, as the server gave them. Where they have halves
of pairs in them, `flaw` says why they cannot be written in a form. -/
structure Crumb where
  field : Json
  value : Json
  flaw : Option String := none

/-- A client of a server with a state of type `σ`. `crumb` is empty until the server has said
whether there is one. What the client was handed to submit and the listings that it got are kept in
the order in which they came. -/
structure Client (σ : Type) where
  settings : ServerSettings
  directory : Url
  reading : Http.Reading := .standard
  crumb : Option (Option Crumb) := none
  wire : Http.Wire σ
  records : List Audit.Record := []
  submitted : List ActionRequest := []
  listings : List (List Resource) := []

namespace Client

variable {σ : Type}

/-- What a client does in one go. -/
abbrev Call (σ α : Type) : Type := ExceptT Failure (StateM (Client σ)) α

/-- A call on a client: the outcome and the client afterwards. -/
def call {α : Type} (c : Client σ) (action : Call σ α) : Except Failure α × Client σ :=
  action.run.run c

/-- A client for the settings of a server, before its first call. -/
def start (settings : ServerSettings) (server : σ) (reading : Http.Reading := .standard) :
    Except Failure (Client σ) :=
  match (Url.parse settings.baseUrl).bind Url.directory with
  | .ok directory => .ok { settings, directory, reading, wire := { server } }
  | .error fault => .error (.badAddress fault.message)

/-! ### Requests -/

/-- The logger of the client. -/
def logger : String := "lockdesk.integration.client"

/-- Leaves a record. -/
def log (logger : String) (level : Audit.Level) (message : String)
    (attributes : List (String × Json)) : Call σ Unit :=
  modify fun c =>
    { c with records := c.records ++ [Audit.Record.plain logger level message attributes] }

/-- The path of a page below the root of the resources. -/
def page (settings : ServerSettings) (path : String) : String :=
  let root := String.ofList (Text.trimWhile (· = '/') settings.rootPath.toList)
  if root = "" then "/" ++ path else "/" ++ root ++ "/" ++ path

/-- The path of the crumb issuer. -/
def crumbPage (settings : ServerSettings) : String :=
  "/" ++ String.ofList (settings.crumbPath.toList.dropWhile (· = '/'))

/-- The authorization of a request: the user and token of the settings if there are both, else the
user and password of the address if there are any. -/
def authorization (settings : ServerSettings) (u : Url) : Option String :=
  let given (s : Option String) : Option String := s.filter (· ≠ "")
  match given settings.username, given settings.apiToken with
  | some name, some token => some (Http.basicAuthorization name token)
  | _, _ =>
    let (name, password) := u.user
    if name = "" ∧ password = "" then none else some (Http.basicAuthorization name password)

/-- The address of a page. -/
def address (c : Client σ) (path : String) : Except Failure Url :=
  match c.directory.extend path with
  | .ok u => .ok u
  | .error fault => .error (.badAddress fault.message)

/-- The values that a value of a form stands for. -/
def formTexts : Json → List String
  | .list items => items.map formText
  | j => [formText j]
where
  /-- One value of a form. -/
  formText : Json → String
    | .bool b => if b then "true" else "false"
    | .null => ""
    | j => j.display

/-- The fields of a form as the body of a request. -/
def formBody (form : List (String × Json)) : String :=
  let fields := form.flatMap fun f => (formTexts f.2).map fun v => (f.1, v)
  "&".intercalate (fields.map fun f => Percent.encodeForm f.1 ++ "=" ++ Percent.encodeForm f.2)

/-- The type of a form's body. -/
def formType : String := "application/x-www-form-urlencoded"

/-- The request of a page. -/
def getRequest (settings : ServerSettings) (u : Url) : Http.Request :=
  { method := .get, url := u, authorization := authorization settings u }

/-- The request that sends a form. A form without fields is no body. -/
def postRequest (settings : ServerSettings) (u : Url) (form : List (String × Json)) :
    Http.Request :=
  { method := .post
    url := u
    body := formBody form
    contentType := if form.isEmpty then none else some formType
    authorization := authorization settings u }

/-- Sends a request and follows redirects. Where the transport fails, the call fails as `failed`
says. -/
def send (transport : Http.Transport σ) (failed : String → Failure) (r : Http.Request) :
    Call σ (Http.Reply × Url) := do
  let c ← get
  let (outcome, wire) := c.wire.exchange transport r
  set { c with wire }
  match outcome with
  | .ok found => return found
  | .error (.transport words) => throw (failed words)
  | .error (.address fault) => throw (.badAddress fault.message)

/-! ### The crumb -/

/-- The member of an object that a crumb must have, or the words for why there is none. -/
def crumbMember (key : String) : Json → Except String Json
  | .object members =>
    match Keyed.find? key members with
    | some value => .ok value
    | none => .error s!"KeyError({Text.quoted key})"
  | .list _ => .error "TypeError('list indices must be integers or slices, not str')"
  | .text _ => .error "TypeError(\"string indices must be integers, not 'str'\")"
  | other => .error s!"TypeError(\"'{other.kind}' object is not subscriptable\")"

/-- Why a value cannot be written in a form, by its two readings. -/
def formFlaw? : Json → Json → Option String
  | .list items, .list marked => (items.zip marked).findSome? fun item => textFlaw? item.1 item.2
  | value, marked => textFlaw? value marked
where
  /-- Why a text cannot be written, by its two readings; other values can. -/
  textFlaw? : Json → Json → Option String
    | .text s, .text marked => Half.flaw? s.toList marked.toList
    | _, _ => none

/-- Why a crumb cannot be written in a form. The name of its field is written before each value, so
not at all if there is none. -/
def crumbFlaw? (octets : List UInt8) (field value : Json) : Option String :=
  match Json.readHalves Half.marked octets with
  | .error _ => none
  | .ok marked =>
    if (formTexts value).isEmpty then none
    else (formFlaw?.textFlaw? field (marked.member "crumbRequestField")).or
      (formFlaw? value (marked.member "crumb"))

/-- The crumb in the body of an answer, or the words for why there is none. -/
def readCrumb (octets : List UInt8) : Except String Crumb := do
  let payload ← match Json.readOctets octets with
    | .ok payload => .ok payload
    | .error fault => .error fault.shown
  let field ← crumbMember "crumbRequestField" payload
  let value ← crumbMember "crumb" payload
  return ⟨field, value, crumbFlaw? octets field value⟩

/-- What the answer of the crumb issuer means: a crumb, or that there is none. -/
def crumbOfReply (r : Http.Reply) : Except Failure (Option Crumb) :=
  if r.status = 404 then .ok none
  else if r.isError then
    .error (.integration s!"crumb request failed with HTTP {r.status}")
  else
    match readCrumb r.body with
    | .ok crumb => .ok (some crumb)
    | .error words =>
      .error (.integration s!"crumb issuer returned an unusable answer: {words}")

/-- The crumb, asked for if the server has not answered yet. -/
def askCrumb (transport : Http.Transport σ) : Call σ (Option Crumb) := do
  let c ← get
  match c.crumb with
  | some crumb => return crumb
  | none =>
    let u ← c.address (crumbPage c.settings)
    let (reply, _) ← send transport
      (fun words => .integration s!"crumb request failed: {words}") (getRequest c.settings u)
    if reply.status = 404 then log logger Audit.Level.debug "server issues no crumb" []
    let crumb ← crumbOfReply reply
    modify fun c => { c with crumb := some crumb }
    return crumb

/-- Adds the crumb to a form. A field that the form has already takes the crumb's value. -/
def addCrumb (form : List (String × Json)) : Option Crumb → Except Failure (List (String × Json))
  | none => .ok form
  | some crumb =>
    match crumb.field with
    | .list items => .error (.notKey (Json.list items).kind)
    | .object members => .error (.notKey (Json.object members).kind)
    | field => .ok (Keyed.insert field.display crumb.value form)

/-- The crumb can be written in a form, if there is one. -/
def checkCrumb (crumb : Option Crumb) : Except Failure Unit :=
  match crumb.bind Crumb.flaw with
  | none => .ok ()
  | some words => .error (.foreign "UnicodeEncodeError" words)

/-! ### Actions -/

/-- Nothing, unless the server refuses an action: then it fails with what the server has to say. -/
def checkReply (reading : Http.Reading) (action : String) (reply : Http.Reply) :
    Except Failure Unit :=
  if reply.isError then do
    let words ← reply.complaint reading
    .error (.submission action words (some reply.status))
  else .ok ()

/-- Sends a form to a page and judges the answer; `action` is what is then said to have failed.
`seen` is what is logged when an answer has come, whatever it is. -/
def post (transport : Http.Transport σ) (action path : String) (fields : List (String × Json))
    (seen : Http.Reply → Call σ Unit) : Call σ Unit := do
  let crumb ← askCrumb transport
  let form ← addCrumb fields crumb
  let c ← get
  let u ← c.address (page c.settings path)
  checkCrumb crumb
  let (reply, _) ← send transport (fun words => .submission action words none)
    (postRequest c.settings u form)
  seen reply
  checkReply c.reading action reply

/-- Submits an action. -/
def submit (transport : Http.Transport σ) (r : ActionRequest) : Call σ Unit := do
  modify fun c => { c with submitted := c.submitted ++ [r] }
  post transport r.action.endpoint r.path [] fun reply =>
    log logger Audit.Level.debug "action submitted"
      [("action", .text r.action.endpoint), ("path", .text r.path), ("status", .int reply.status)]

/-- The logger of what is dispatched. -/
def dispatchLogger : String := "lockdesk.integration.dispatcher"

/-- Submits an action for what is selected in a table, and says what was submitted. -/
def dispatch (transport : Http.Transport σ) (c : Capability) (source : Option Source) :
    Call σ (Option ActionRequest) := do
  match ← ActionRequest.ofSelection c source with
  | none =>
    log dispatchLogger Audit.Level.debug s!"nothing selected, {c.keyword} skipped" []
    return none
  | some r =>
    log dispatchLogger Audit.Level.info s!"dispatching {r.action.endpoint}"
      [("action", .text r.action.endpoint), ("resources", .list (r.resources.map .text))]
    submit transport r
    return some r

/-! ### Notes -/

/-- The failure to get the form for the note of a resource. -/
def noForm (name words : String) : Failure :=
  .integration s!"note form for {name} unavailable: {words}"

/-- The form for the note of a resource, as text, from the answer and where it came from. -/
def formOfReply (reading : Http.Reading) (name : String) (reply : Http.Reply) (u : Url) :
    Except Failure String :=
  if reply.isSuccess then reply.text reading else .error (noForm name (reply.statusWords u))

/-- Fetches the form for the note of a resource, as text. -/
def fetchNoteForm (transport : Http.Transport σ) (name : String) : Call σ String := do
  let c ← get
  let u ← c.address (page c.settings "noteForm")
  let u ← match u.withForm [("resource", name)] with
    | .ok u => pure u
    | .error fault => throw (.badAddress fault.message)
  let (reply, u) ← send transport (noForm name) (getRequest c.settings u)
  formOfReply c.reading name reply u

/-- Saves the note of a resource. -/
def saveNote (transport : Http.Transport σ) (name note : String) : Call σ Unit := do
  post transport "saveNote" ("saveNote?resource=" ++ Percent.encodeComponent name)
    [("note", .text note)] fun _ => pure ()
  log logger Audit.Level.info "note saved" [("resource", .text name)]

/-! ### The listing -/

/-- The entries of a listing. -/
def listingEntries (payload : Json) : Except Failure (List Json) := do
  let members ← Resource.readObject payload
  match (Keyed.find? "resources" members).getD (.list []) with
  | .list entries => return entries
  | .text s => return s.toList.map fun c => .text (String.ofList [c])
  | .object entries => return entries.map fun e => .text e.1
  | other => throw (.notIterable other.kind)

/-- Fetches the listing of all resources, as the user sees it. -/
def listResources (transport : Http.Transport σ) (user : Json) : Call σ (List Resource) := do
  let failed (words : String) : Failure := .integration s!"resource listing failed: {words}"
  let c ← get
  let u ← c.address (page c.settings "api/json")
  let (reply, u) ← send transport failed (getRequest c.settings u)
  if reply.isSuccess then
    match Json.readOctets reply.body with
    | .error _ => throw (.integration "resource listing is not valid JSON")
    | .ok payload =>
      let entries ← listingEntries payload
      let resources ← entries.mapM fun e => Resource.fromListing e user
      modify fun c => { c with listings := c.listings ++ [resources] }
      return resources
  else throw (failed (reply.statusWords u))

end Client

end Lockable
