import Lockable.Capability

/-!
# Settings

What the desk and the commands are configured with: which server to talk to, who the current user
is and what they may do, how the desk looks, and where the audit trail goes.
-/

namespace Lockable

/-- Where the server is and how to sign in. -/
structure ServerSettings where
  baseUrl : String
  rootPath : String := "lockable-resources"
  crumbPath : String := "crumbIssuer/api/json"
  username : Option String := none
  apiToken : Option String := none
  timeout : Binary64 := .ofInt 10
  verifyTls : Bool := true
  deriving DecidableEq

/-- Who the current user is and what they are granted, by capability names. -/
structure SessionSettings where
  user : Option String := none
  permissions : List (String × Bool) := []
  deriving DecidableEq

/-- How the desk looks and how often it asks for the listing. -/
structure DeskSettings where
  theme : String := "dark"
  refreshInterval : Binary64 := .ofInt 30
  deriving DecidableEq

/-- What is logged, and where to. -/
structure LoggingSettings where
  level : String := "INFO"
  logDir : Option String := none
  deriving DecidableEq

/-- All settings. -/
structure Settings where
  server : ServerSettings
  session : SessionSettings := {}
  desk : DeskSettings := {}
  logging : LoggingSettings := {}
  deriving DecidableEq

namespace Settings

/-- A text that may be missing, as JSON. -/
def textOrNull : Option String → Json
  | some s => .text s
  | none => .null

/-- The grants of a session as a permission mapping. -/
def permissionMapping (grants : List (String × Bool)) : Json :=
  .object (grants.map fun (k, v) => (k, .bool v))

/-- The settings as JSON. The token is shown only where `withToken` says so. -/
def toJson (withToken : Bool) (s : Settings) : Json :=
  let token := if withToken then [("api_token", textOrNull s.server.apiToken)] else []
  .object [
    ("server", .object ([
      ("base_url", .text s.server.baseUrl),
      ("root_path", .text s.server.rootPath),
      ("crumb_path", .text s.server.crumbPath),
      ("username", textOrNull s.server.username)] ++ token ++ [
      ("timeout", .float s.server.timeout),
      ("verify_tls", .bool s.server.verifyTls)])),
    ("session", .object [
      ("user", textOrNull s.session.user),
      ("permissions", permissionMapping s.session.permissions)]),
    ("ui", .object [
      ("theme", .text s.desk.theme),
      ("refresh_interval", .float s.desk.refreshInterval)]),
    ("logging", .object [
      ("level", .text s.logging.level),
      ("log_dir", textOrNull s.logging.logDir)])]

end Settings

end Lockable
