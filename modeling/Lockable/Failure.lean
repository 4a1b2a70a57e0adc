import Lockable.Capability

/-!
# Failures

Every way in which an operation of this library can fail, as its **cause**; the words of a cause
are in one place, `Failure.message`.

A failure is *reported* when the commands and the desk show it to the user and go on; the others
end the operation that met them.
-/

namespace Lockable

/-- One value that a configuration document gives wrongly: where it stands, which rule it breaks
and how the rule is worded. -/
structure Complaint where
  place : List String
  rule : String
  words : String
  deriving DecidableEq, Repr

/-- Why a configuration cannot be used. The words of a reader of a format, and what the check says
of each complaint, are kept as they come. -/
inductive ConfigurationFailure where
  | noFile (path : String)
  | badYaml (path words : String)
  | badToml (path words : String)
  | badFormat (suffix : String)
  | invalid (schema : String) (complaints : List Complaint) (words : String)
  deriving DecidableEq, Repr

/-- Why an operation failed. -/
inductive Failure where
  /-- The upper-cased spelling names no capability. -/
  | unknownCapability (spelling : String)
  /-- The capability or the word given for it is no row action. -/
  | notRowAction (given : String)
  /-- A batch without resources. -/
  | emptyBatch
  /-- The capability has no rule and no button. -/
  | noButton (capability : Capability)
  /-- The row to be unchecked is not checked. -/
  | notChecked
  /-- Only a text can be part of an address. -/
  | notText
  /-- A value of this kind has no such attribute. -/
  | noAttribute (kind wanted : String)
  /-- A required member is missing. -/
  | missingMember (key : String)
  /-- Named values were asked for the one at a position. -/
  | missingPosition (index : Nat)
  /-- A position beyond the end of a list or of a text. -/
  | outOfRange (what : String)
  /-- A value of this kind has no items. -/
  | notIterable (kind : String)
  /-- A value of this kind cannot be a key. -/
  | notKey (kind : String)
  /-- Any other value of the wrong type, in these words. -/
  | wrongType (words : String)
  /-- Any other value out of range, in these words. -/
  | wrongValue (words : String)
  /-- A number too large for its use, in these words. -/
  | tooLarge (words : String)
  /-- A text that is no address, in these words. -/
  | badAddress (words : String)
  /-- A moment that the calendar does not reach. -/
  | outsideCalendar
  /-- The path leads to a directory where a file is wanted. -/
  | isDirectory (path : String)
  /-- Octets that are the octets of no text, in these words. -/
  | notUtf8 (words : String)
  /-- The table of resources broke, for this cause. -/
  | brokenSource (cause : String)
  /-- Markup that cannot be read, in these words. -/
  | rejectedMarkup (words : String)
  /-- A text that is no selector, in these words. -/
  | badSelector (words : String)
  /-- A selector of a kind that is not supported, in these words. -/
  | unsupportedSelector (words : String)
  /-- A value of this kind cannot be drawn in a table of a command. -/
  | notDrawable (kind : String)
  /-- A value of this kind cannot be shown on the desk. -/
  | notDisplayable (kind : String)
  /-- Any other failure while running, in these words. -/
  | broken (words : String)
  /-- A failure of something that this library rests on, of this kind and in these words. -/
  | foreign (kind words : String)
  /-- The operation was called off. -/
  | cancelled
  /-- The configuration cannot be used. -/
  | configuration (cause : ConfigurationFailure)
  /-- The server cannot be reached or answers badly. -/
  | integration (words : String)
  /-- The server refused an action, with the status of its answer if there was one. -/
  | submission (action words : String) (status : Option Nat)
  /-- A request of the user that cannot be met. -/
  | refused (words : String)
  deriving DecidableEq, Repr

/-- A failure of something that this library rests on, by its kind and its words. -/
structure Foreign where
  kind : String
  words : String
  deriving DecidableEq, Repr

/-- The failure of whoever meets it. -/
def Foreign.failure (e : Foreign) : Failure := .foreign e.kind e.words

/-- The words for a configuration that cannot be used. -/
def ConfigurationFailure.message : ConfigurationFailure → String
  | .noFile path => s!"Configuration file {path} does not exist"
  | .badYaml path words => s!"Invalid YAML in {path}{words}"
  | .badToml path words => s!"Invalid TOML in {path}{words}"
  | .badFormat suffix => s!"Unsupported configuration format: {suffix}"
  | .invalid schema complaints words =>
    let plural := if complaints.length = 1 then "" else "s"
    s!"{complaints.length} validation error{plural} for {schema}{words}"

/-- The name of a capability as a key is shown. -/
def Capability.shown (c : Capability) : String := s!"<Capability.{c.name}: '{c.name}'>"

namespace Failure

/-- The words for a failure. -/
def message : Failure → String
  | unknownCapability spelling => s!"{Text.quoted spelling} is not a valid Capability"
  | notRowAction given => s!"{given} is not a resource action"
  | emptyBatch => "an action request needs at least one resource"
  | noButton c => c.shown
  | notChecked => "list.remove(x): x not in list"
  | notText => "quote_from_bytes() expected bytes"
  | noAttribute kind wanted => s!"'{kind}' object has no attribute '{wanted}'"
  | missingMember key => Text.quoted key
  | missingPosition index => s!"{index}"
  | outOfRange what => s!"{what} index out of range"
  | notIterable kind => s!"'{kind}' object is not iterable"
  | notKey kind => s!"unhashable type: '{kind}'"
  | wrongType words => words
  | wrongValue words => words
  | tooLarge words => words
  | badAddress words => words
  | outsideCalendar => "[Errno 75] Value too large for defined data type"
  | isDirectory path => s!"[Errno 21] Is a directory: {Text.quoted path}"
  | notUtf8 words => words
  | brokenSource _ => "lockable-resources"
  | rejectedMarkup words =>
    "The markup you provided was rejected by the parser. Trying a different parser or a different "
      ++ s!"encoding may help.\n\nOriginal error(s) from parser:\n  AssertionError: {words}"
  | badSelector words => words
  | unsupportedSelector words => words
  | notDrawable kind => s!"unable to render {kind}; a string or other renderable object is required"
  | notDisplayable kind =>
    s!"unable to display '{kind}' type; must be a str, Rich renderable, or Textual Visual object"
  | broken words => words
  | foreign _ words => words
  | cancelled => ""
  | configuration cause => cause.message
  | integration words => words
  | submission action words _ => s!"{action}: {words}"
  | refused words => words

/-- Whether the server is the cause of the failure. -/
def isIntegration : Failure → Bool
  | integration _ => true
  | submission .. => true
  | _ => false

/-- Whether the failure is one that is shown to the user. -/
def isReported : Failure → Bool
  | configuration _ => true
  | refused _ => true
  | e => e.isIntegration

end Failure

/-- The failure to show an integer that is too long. -/
def Json.notShown : Failure := .wrongValue tooLongToShow

/-- A text that shows a value, if it can be shown. -/
def Json.ifShowable (j : Json) (text : String) : Except Failure String :=
  if j.showable then .ok text else .error Json.notShown

/-- What succeeds in two steps succeeds in each. -/
theorem exists_of_bind_eq_ok {ε α β : Type} {x : Except ε α} {f : α → Except ε β} {b : β}
    (h : x >>= f = .ok b) : ∃ a, x = .ok a ∧ f a = .ok b := by
  cases x with
  | error e => cases h
  | ok a => exact ⟨a, rfl, h⟩

section Checks

variable {ε α : Type} {f : α → Except ε Unit} {l : List α} {e : ε}

/-- Checks one after another succeed when each of them does. -/
theorem forM_eq_ok_iff : l.forM f = .ok () ↔ ∀ a ∈ l, f a = .ok () := by
  induction l with
  | nil => exact iff_of_true rfl nofun
  | cons a rest ih =>
    have hcons : (a :: rest).forM f = f a >>= fun _ => rest.forM f := rfl
    rw [List.forall_mem_cons, ← ih, hcons]
    cases f a with
    | error e => exact iff_of_false nofun fun h => nomatch h.1
    | ok _ => exact (and_iff_right rfl).symm

/-- Where they do not succeed, they fail as one of them does. -/
theorem exists_of_forM_eq_error (h : l.forM f = .error e) : ∃ a ∈ l, f a = .error e := by
  induction l with
  | nil => cases h
  | cons a rest ih =>
    have hcons : (a :: rest).forM f = f a >>= fun _ => rest.forM f := rfl
    rw [hcons] at h
    cases ha : f a with
    | error e' =>
      rw [ha] at h
      cases h
      exact ⟨a, List.mem_cons_self, ha⟩
    | ok _ =>
      rw [ha] at h
      obtain ⟨b, hb, hfb⟩ := ih h
      exact ⟨b, List.mem_cons_of_mem _ hb, hfb⟩

end Checks

end Lockable
