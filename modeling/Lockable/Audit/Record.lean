import Lockable.Audit.Template
import Lockable.Audit.Timestamp
import Lockable.Json.Writer

/-!
# Audit records

What is logged, and the **one line** that it becomes: a JSON object with the moment, the level, the
logger and the message first, then those attributes of the record that belong to the trail, in the
order of `Audit.contextKeys`, then the exception. Any other attribute stays out.

Two of the others count all the same. One with the name of what fills in the message stands in its
way, and one with the name of what tells of an exception is taken for that.
-/

namespace Lockable.Audit

/-- The attributes that belong to the trail. -/
def contextKeys : List String :=
  ["resource", "resources", "action", "request_id", "capability", "path", "status"]

/-- How grave a record is, as a number. -/
abbrev Level : Type := Int

namespace Level

def debug : Level := 10
def info : Level := 20
def warning : Level := 30
def error : Level := 40
def critical : Level := 50

/-- The words for levels. -/
def names : List (String × Level) :=
  [("CRITICAL", critical), ("FATAL", critical), ("ERROR", error), ("WARN", warning),
   ("WARNING", warning), ("INFO", info), ("DEBUG", debug), ("NOTSET", 0)]

/-- The level that a word stands for. -/
def named? (word : String) : Option Level := Keyed.find? word names

/-- The word for a level. -/
def name (l : Level) : String :=
  if l = critical then "CRITICAL"
  else if l = error then "ERROR"
  else if l = warning then "WARNING"
  else if l = info then "INFO"
  else if l = debug then "DEBUG"
  else if l = 0 then "NOTSET"
  else "Level " ++ Json.intText l

end Level

/-- An exception that a record tells of: what kind it is of, and its words. -/
structure Exceptional where
  kind : String
  words : String
  deriving DecidableEq, Repr

/-- An exception in a line: its kind, and its words if it has any. A missing key is shown
quoted. -/
def Exceptional.text (e : Exceptional) : String :=
  let words := if e.kind = "KeyError" then Text.quoted e.words else e.words
  if words.isEmpty then e.kind else e.kind ++ ": " ++ words

/-- A record: when, how grave, from which logger, the message as a template with its arguments, the
attributes, and the exception that led to it. -/
structure Record where
  created : Json := .int 0
  level : Level := Level.info
  levelName : Json := .text level.name
  logger : Json
  template : Json
  arguments : Arguments := .none
  attributes : List (String × Json) := []
  exceptional : Option Exceptional := none
  deriving Inhabited

namespace Record

/-- Sets an attribute. Those that a record has of itself are set in place. -/
def set (key : String) (value : Json) (r : Record) : Record :=
  if key = "created" then { r with created := value }
  else if key = "levelname" then { r with levelName := value }
  else if key = "name" then { r with logger := value }
  else if key = "msg" then { r with template := value }
  else if key = "args" then { r with arguments := .ofValue value }
  else { r with attributes := Keyed.insert key value r.attributes }

/-- The message, filled in. An attribute with the name of what fills it in is called in its place,
and no value can be called. -/
def message (r : Record) : Except Failure String :=
  match Keyed.find? "getMessage" r.attributes with
  | some value => .error (.wrongType s!"'{value.kind}' object is not callable")
  | none => do
    let template ← r.template.ifShowable r.template.display
    Template.fill template r.arguments

/-- A value that is taken for an exception: the last of three items must be null, and the one before
it as well. -/
def exceptionOf : Json → Except Failure String
  | .object _ => .error (.missingPosition 2)
  | .text s =>
    .error (if s.length < 3 then .outOfRange "string" else .noAttribute "str" "tb_frame")
  | .list (_ :: .null :: .null :: _) => .ok (Exceptional.text ⟨"NoneType", "None"⟩)
  | .list (_ :: other :: .null :: _) => .error (.noAttribute other.kind "__suppress_context__")
  | .list (_ :: _ :: place :: _) => .error (.noAttribute place.kind "tb_frame")
  | .list _ => .error (.outOfRange "list")
  | other => .error (.wrongType s!"'{other.kind}' object is not subscriptable")

/-- The exception in a line. An attribute with its name takes its place, if that counts as given;
else there is none then. -/
def exceptionText (r : Record) : Except Failure (Option String) :=
  match Keyed.find? "exc_info" r.attributes with
  | some value => if value.truthy then (exceptionOf value).map some else .ok none
  | none => .ok (r.exceptional.map Exceptional.text)

/-- The attributes that belong to the trail, in their order. -/
def context (r : Record) : List (String × Json) :=
  contextKeys.filterMap fun key => (Keyed.find? key r.attributes).map (key, ·)

/-- The object that a line holds. -/
def entry (r : Record) : Except Failure Json := do
  let timestamp ← Timestamp.text r.created
  let message ← r.message
  let exception ← r.exceptionText
  return .object ([("timestamp", .text timestamp), ("level", r.levelName), ("logger", r.logger),
    ("message", .text message)] ++ r.context
    ++ (exception.map fun text => ("exception", Json.text text)).toList)

/-- The line of a record. -/
def line (r : Record) : Except Failure String := do
  let entry ← r.entry
  entry.ifShowable entry.write

/-- A record with a message that is complete. -/
def plain (logger : String) (level : Level) (message : String)
    (attributes : List (String × Json)) : Record :=
  { level, logger := .text logger, template := .text message, attributes }

end Record

end Lockable.Audit
