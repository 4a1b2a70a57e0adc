import Lockable.Proofs.Command.Part
import Lockable.Proofs.Desk.Reachable

/-!
# How loading fails

A configuration that cannot be used is refused with the cause, and the user is told: the command
line prints a line and ends, the desk shows a toast and goes on, each if it takes the markup of the
message. Any other failure of a load breaks the command off and ends the desk. Looking, reading,
parsing and checking are gone through in turn, and what each of them lets through is the rest of it:
a load **breaks** (`SettingsStore.Breaks`) exactly where

* the system does not let the path be looked at,
* the path has the suffix of a format, and the system does not let the file be read or it is a
  directory,
* the octets of the file are those of no text, and that is met before anything is refused,
* a YAML text has a word that stands for no value, or a TOML text an integer that is too long, or
* the document of a YAML text counts as given, and is no mapping or has a key that is no text
  (`Settings.Misshapen`).

A TOML text has no such document, whatever its tables hold.
-/

namespace Lockable

/-! ### Documents -/

namespace Settings

variable {d : Document} {e : Failure} {words : String}

/-- What a document fails with before any of its values is looked at. -/
inductive Misshapen : Document → Failure → Prop
  /-- It counts as given and is no mapping. -/
  | unnamed {d : Document} (hgiven : d.truthy = true) (hshape : ∀ entries, d ≠ .mapping entries) :
    Misshapen d (.wrongType
      s!"lockdesk.core.config.{schema}() argument after ** must be a mapping, not {d.kind}")
  /-- One of its keys is no text. -/
  | key {entries : List (Document × Document)} {entry : Document × Document}
      (hmem : entry ∈ entries) (hkey : isText entry.1 = false) :
    Misshapen (.mapping entries) (.wrongType "keywords must be strings")

theorem Misshapen.isReported (h : Misshapen d e) : e.isReported = false := by
  cases h <;> rfl

end Settings

namespace SettingsStore

variable {ω : Type} {files : Files} {path : String} {d : Document} {e : Failure}

/-- The suffix is one of YAML. -/
def NamesYaml (path : String) : Prop := Path.suffix path = ".yml" ∨ Path.suffix path = ".yaml"

/-- The suffix is one of a format. -/
def NamesFormat (path : String) : Prop := NamesYaml path ∨ Path.suffix path = ".toml"

/-- The path can be looked at, and there is something. -/
def Seen (files : Files) (path : String) : Prop :=
  files.unseen? path = none ∧ files.exists? path = true

/-- The path leads to a file with these octets, which can be read. -/
def Holds (files : Files) (path : String) (octets : List UInt8) : Prop :=
  files.unseen? path = none ∧ files.locked? path = none ∧ files.read? path = some octets

/-- A load from the path **breaks** with a failure. -/
inductive Breaks (files : Files) (path : String) : Failure → Prop
  /-- The path cannot be looked at. -/
  | unseen {e : Foreign} (hunseen : files.unseen? path = some e) : Breaks files path e.failure
  /-- The file cannot be read. -/
  | locked {e : Foreign} (hformat : NamesFormat path) (hseen : Seen files path)
      (hlocked : files.locked? path = some e) :
    Breaks files path e.failure
  /-- Where a file is wanted there is a directory. -/
  | directory (hformat : NamesFormat path) (hseen : Seen files path)
      (hlocked : files.locked? path = none) (hread : files.read? path = none) :
    Breaks files path (.isDirectory (Path.normalize path))
  /-- The octets of a YAML file are those of no text, and nothing is refused before that is met. -/
  | yamlOctets {octets : List UInt8} {f : Utf8.Fault} (hyaml : NamesYaml path)
      (hholds : Holds files path octets) (hfault : Utf8.fault? 0 octets = some f)
      (hlate : files.formats.early octets = false) :
    Breaks files path (.notUtf8 (notUtf8Words octets (pieceOf f) f))
  /-- The octets of a TOML file are those of no text. -/
  | tomlOctets {octets : List UInt8} {f : Utf8.Fault} (htoml : Path.suffix path = ".toml")
      (hholds : Holds files path octets) (hfault : Utf8.fault? 0 octets = some f) :
    Breaks files path (.notUtf8 (notUtf8Words octets 0 f))
  /-- A word of the YAML text stands for no value. -/
  | word {octets : List UInt8} {u : Yaml.Unmakable} (hyaml : NamesYaml path)
      (hholds : Holds files path octets) (htext : Utf8.fault? 0 octets = none)
      (hread : Yaml.readDocument (lineFeeds (Utf8.decode octets)) = .error (.unmakable u)) :
    Breaks files path u.failure
  /-- An integer of the TOML text is too long. -/
  | integer {octets : List UInt8} {digits : Nat} (htoml : Path.suffix path = ".toml")
      (hholds : Holds files path octets) (htext : Utf8.fault? 0 octets = none)
      (hread : Toml.readDocument (Utf8.decode octets) = .error (.tooLong digits)) :
    Breaks files path (.wrongValue (tooManyDigits digits))
  /-- The document of the YAML text is misshapen. -/
  | document {octets : List UInt8} {d : Document} {e : Failure} (hyaml : NamesYaml path)
      (hholds : Holds files path octets) (htext : Utf8.fault? 0 octets = none)
      (hread : Yaml.readDocument (lineFeeds (Utf8.decode octets)) = .ok d)
      (hmisshapen : Settings.Misshapen d e) :
    Breaks files path e

/-- The user is told of nothing that a load breaks with. -/
theorem Breaks.isReported (h : Breaks files path e) : e.isReported = false := by
  cases h with
  | unseen | locked | directory | yamlOctets | tomlOctets | integer => rfl
  | word => exact Yaml.Unmakable.isReported_failure _
  | document _ _ _ _ hmisshapen => exact hmisshapen.isReported

/-! ### Reading, by format -/

variable {octets : List UInt8}

theorem Holds.seen (h : Holds files path octets) : Seen files path := by
  refine ⟨h.1, ?_⟩
  rw [Files.exists?, h.2.2]
  rfl

variable {store : SettingsStore ω}

theorem load_eq_error_iff : store.load files = (store, .error e) ↔ store.read files = .error e := by
  rw [load]
  split
  · next hread => simp [hread]
  · next hread => simp [hread]

end SettingsStore

/-! ### Who loads -/

/-- At the desk a load that fails changes at most what is shown. -/
theorem Desk.reload_of_read_eq_error {σ : Type} {d : Desk σ} {files : Files}
    {store : SettingsStore Unit} {e : Failure} (hstore : d.store = some store)
    (h : store.read files = .error e) :
    d.reload files = d.report "Configuration error" e := by
  have hload := SettingsStore.load_eq_error_iff.mpr h
  have hreload : store.reload files = (store, .error e) := by
    rw [SettingsStore.reload, hload]
  have hsame : { d with store := some store } = d := by rw [← hstore]
  rw [reload, hstore]
  dsimp only
  rw [hreload]
  dsimp only
  rw [hsame]

namespace SettingsStore

variable {ω σ : Type}

end SettingsStore

end Lockable
