import Lockable.Document
import Lockable.Files
import Lockable.Settings
import Lockable.Yaml.Scalar

/-!
# The settings in a document

`Settings.ofDocument` reads settings from the mapping of a configuration document. It does not stop
at the first value that is wrong: the **complaints** about all of them come together, in the order
in which the sections and their values are declared. Unknown keys are ignored, and what is missing
has a default, the server's address apart.

A value may be written in more than one way: numbers and booleans also as texts, a boolean also as
one or zero. Permission names are written in any spelling and kept by their proper names, a later
spelling of the same capability replacing an earlier one.
-/

namespace Lockable

/-- A value, or what is wrong with it. -/
abbrev Checked (α : Type) : Type := Except (List Complaint) α

namespace Checked

/-- What is wrong. -/
def complaints {α : Type} : Checked α → List Complaint
  | .ok _ => []
  | .error cs => cs

/-- A value that breaks one rule. -/
def refuse {α : Type} (place : List String) (rule words : String) : Checked α :=
  .error [⟨place, rule, words⟩]

/-! ### Kinds of values -/

/-- A text. -/
def text (place : List String) : Document → Checked String
  | .text s => .ok s
  | .octets bs =>
    match Utf8.decode? bs with
    | some cs => .ok (String.ofList cs)
    | none =>
      refuse place "string_unicode"
        "Input should be a valid string, unable to parse raw data as a unicode string"
  | _ => refuse place "string_type" "Input should be a valid string"

/-- A text, or null. -/
def textOrNull (place : List String) : Document → Checked (Option String)
  | .null => .ok none
  | d => (text place d).map some

/-- Whether the character is a blank around a number that is written as a text. -/
def isNumberBlank (c : Char) : Bool := Text.isBlank c && !(28 ≤ c.toNat && c.toNat ≤ 31)

/-- The number that a text writes; single `_` may stand between its characters. -/
def numberOf? (s : String) : Option Binary64 :=
  let trimmed := Text.trimWhile isNumberBlank
  let read (cs : List Char) : Option Binary64 := Yaml.numberOf? (trimmed cs)
  let cs := s.toList
  let doubled := (Text.splitOn (· = '_') cs).any List.isEmpty
  read cs <|> if doubled then none else read (cs.filter (· ≠ '_'))

/-- A number: an integer within range, a boolean as one or zero, or a text that writes one. -/
def number (place : List String) (d : Document) : Checked Binary64 :=
  let parsed (s : String) : Checked Binary64 :=
    match numberOf? s with
    | some x => .ok x
    | none =>
      refuse place "float_parsing"
        "Input should be a valid number, unable to parse string as a number"
  let wrong : Checked Binary64 := refuse place "float_type" "Input should be a valid number"
  match d with
  | .float x => .ok x
  | .int n =>
    let x := Binary64.ofInt n
    if x.isFinite then .ok x else wrong
  | .bool b => .ok (.ofInt b.toNat)
  | .text s => parsed s
  | .octets bs => (text place (.octets bs)).bind parsed
  | _ => wrong

/-- A number greater than zero. -/
def positive (place : List String) (d : Document) : Checked Binary64 := do
  let x ← number place d
  if Binary64.orderInt 0 x = some .lt then return x
  else refuse place "greater_than" "Input should be greater than 0"

/-- A number that is five or more. -/
def atLeastFive (place : List String) (d : Document) : Checked Binary64 := do
  let x ← number place d
  if Binary64.orderInt 5 x = some .lt ∨ Binary64.orderInt 5 x = some .eq then return x
  else refuse place "greater_than_equal" "Input should be greater than or equal to 5"

/-- A boolean: itself, one or zero, or a word for it. -/
def boolean (place : List String) (d : Document) : Checked Bool :=
  let unclear : Checked Bool :=
    refuse place "bool_parsing" "Input should be a valid boolean, unable to interpret input"
  let wrong : Checked Bool := refuse place "bool_type" "Input should be a valid boolean"
  let ofInt (n : Int) : Checked Bool :=
    if n = 0 then .ok false else if n = 1 then .ok true else unclear
  let ofWord (s : String) : Checked Bool :=
    let word := Text.asciiLower s
    if ["0", "off", "f", "false", "n", "no"].contains word then .ok false
    else if ["1", "on", "t", "true", "y", "yes"].contains word then .ok true
    else unclear
  match d with
  | .bool b => .ok b
  | .int n => if (Binary64.ofInt n).isFinite then ofInt n else wrong
  | .float x =>
    match x.toInt? with
    | some n => ofInt n
    | none => wrong
  | .text s => ofWord s
  | .octets bs => (text place (.octets bs)).bind ofWord
  | _ => wrong

/-- A path, or null. -/
def pathOrNull (place : List String) : Document → Checked (Option String)
  | .null => .ok none
  | .text s => .ok (some (Path.normalize s))
  | _ => refuse place "path_type" "Input is not a valid path"

/-- The value of a field that need not be there. -/
def field {α : Type} (entries : List (Document × Document)) (place : List String) (key : String)
    (default : α) (check : List String → Document → Checked α) : Checked α :=
  match Document.find? key entries with
  | some d => check (place ++ [key]) d
  | none => .ok default

/-- The value of a field that must be there. -/
def required {α : Type} (entries : List (Document × Document)) (place : List String) (key : String)
    (check : List String → Document → Checked α) : Checked α :=
  match Document.find? key entries with
  | some d => check (place ++ [key]) d
  | none => refuse (place ++ [key]) "missing" "Field required"

/-- A section, which must be a mapping. -/
def mapping {α : Type} (name : String) (place : List String)
    (check : List (Document × Document) → Checked α) : Document → Checked α
  | .mapping entries => check entries
  | _ =>
    refuse place "model_type" s!"Input should be a valid dictionary or instance of {name}"

/-! ### Permissions -/

/-- How a key that is no text is named in the place of a complaint. -/
def keyName : Document → String
  | .text s => s
  | .bool b => if b then "1" else "0"
  | d => d.shownKey

/-- The permissions of a mapping as they are written; complaints about a key come before those
about its value. -/
def grants (place : List String) : List (Document × Document) → Checked (List (String × Bool))
  | [] => .ok []
  | (k, v) :: rest =>
    let name := keyName k
    let key := text (place ++ [name, "[key]"]) k
    let value := boolean (place ++ [name]) v
    match key, value, grants place rest with
    | .ok key, .ok value, .ok more => .ok ((key, value) :: more)
    | key, value, more => .error (key.complaints ++ value.complaints ++ more.complaints)

/-- The permissions by the proper names of their capabilities; the first name that spells none is
refused. -/
def properNames (place : List String) :
    List (String × Bool) → List (String × Bool) → Checked (List (String × Bool))
  | done, [] => .ok done
  | done, (key, granted) :: rest =>
    match Capability.read? (.text key) with
    | some c => properNames place (Keyed.insert c.name granted done) rest
    | none => refuse place "value_error" s!"Value error, Unknown permission {Text.quoted key}"

/-- A mapping of permissions. -/
def permissionMapping (place : List String) : Document → Checked (List (String × Bool))
  | .mapping entries => do properNames place [] (← grants place entries)
  | _ => refuse place "dict_type" "Input should be a valid dictionary"

end Checked

open Checked

/-- The settings of the server. -/
def ServerSettings.ofEntries (place : List String) (entries : List (Document × Document)) :
    Checked ServerSettings :=
  let baseUrl := required entries place "base_url" text
  let rootPath := field entries place "root_path" "lockable-resources" text
  let crumbPath := field entries place "crumb_path" "crumbIssuer/api/json" text
  let username := field entries place "username" none textOrNull
  let apiToken := field entries place "api_token" none textOrNull
  let timeout := field entries place "timeout" (.ofInt 10) positive
  let verifyTls := field entries place "verify_tls" true boolean
  match baseUrl, rootPath, crumbPath, username, apiToken, timeout, verifyTls with
  | .ok baseUrl, .ok rootPath, .ok crumbPath, .ok username, .ok apiToken, .ok timeout,
    .ok verifyTls =>
    .ok { baseUrl, rootPath, crumbPath, username, apiToken, timeout, verifyTls }
  | baseUrl, rootPath, crumbPath, username, apiToken, timeout, verifyTls =>
    .error (baseUrl.complaints ++ rootPath.complaints ++ crumbPath.complaints
      ++ username.complaints ++ apiToken.complaints ++ timeout.complaints ++ verifyTls.complaints)

/-- The settings of the server alone, from a document. -/
def ServerSettings.ofDocument (d : Document) : Except Failure ServerSettings :=
  match mapping "ServerSettings" [] (ServerSettings.ofEntries []) d with
  | .ok s => .ok s
  | .error complaints => .error (.configuration (.invalid "ServerSettings" complaints ""))

/-- The settings of the session. -/
def SessionSettings.ofEntries (place : List String) (entries : List (Document × Document)) :
    Checked SessionSettings :=
  let user := field entries place "user" none textOrNull
  let permissions := field entries place "permissions" [] permissionMapping
  match user, permissions with
  | .ok user, .ok permissions => .ok { user, permissions }
  | user, permissions => .error (user.complaints ++ permissions.complaints)

/-- The settings of the desk. -/
def DeskSettings.ofEntries (place : List String) (entries : List (Document × Document)) :
    Checked DeskSettings :=
  let theme := field entries place "theme" "dark" text
  let refreshInterval := field entries place "refresh_interval" (.ofInt 30) atLeastFive
  match theme, refreshInterval with
  | .ok theme, .ok refreshInterval => .ok { theme, refreshInterval }
  | theme, refreshInterval => .error (theme.complaints ++ refreshInterval.complaints)

/-- The settings of the audit trail. -/
def LoggingSettings.ofEntries (place : List String) (entries : List (Document × Document)) :
    Checked LoggingSettings :=
  let level := field entries place "level" "INFO" text
  let logDir := field entries place "log_dir" none pathOrNull
  match level, logDir with
  | .ok level, .ok logDir => .ok { level, logDir }
  | level, logDir => .error (level.complaints ++ logDir.complaints)

namespace Settings

/-- All settings. -/
def ofEntries (entries : List (Document × Document)) : Checked Settings :=
  let server := required entries [] "server" fun place =>
    mapping "ServerSettings" place (ServerSettings.ofEntries place)
  let session := field entries [] "session" {} fun place =>
    mapping "SessionSettings" place (SessionSettings.ofEntries place)
  let desk := field entries [] "ui" {} fun place =>
    mapping "UISettings" place (DeskSettings.ofEntries place)
  let logging := field entries [] "logging" {} fun place =>
    mapping "LoggingSettings" place (LoggingSettings.ofEntries place)
  match server, session, desk, logging with
  | .ok server, .ok session, .ok desk, .ok logging => .ok { server, session, desk, logging }
  | server, session, desk, logging =>
    .error (server.complaints ++ session.complaints ++ desk.complaints ++ logging.complaints)

/-- The name of the settings in complaints. -/
def schema : String := "LockDeskSettings"

/-- Whether a document is a text. -/
def isText : Document → Bool
  | .text _ => true
  | _ => false

/-- The settings of a document. A document that does not count as given is an empty mapping; any
other must be a mapping, and all its keys texts. The words are what the check says of its
complaints. -/
def ofDocument (d : Document) (words : String := "") : Except Failure Settings :=
  let entries : Except Failure (List (Document × Document)) :=
    if d.truthy then
      match d with
      | .mapping entries => .ok entries
      | d =>
        .error (.wrongType
          s!"lockdesk.core.config.{schema}() argument after ** must be a mapping, not {d.kind}")
    else .ok []
  match entries with
  | .error e => .error e
  | .ok entries =>
    if entries.all fun e => isText e.1 then
      match ofEntries entries with
      | .ok s => .ok s
      | .error complaints => .error (.configuration (.invalid schema complaints words))
    else .error (.wrongType "keywords must be strings")

end Settings

end Lockable
