import Lockable.Settings.Schema
import Lockable.Toml.Document
import Lockable.Yaml.Document

/-!
# The settings store

A store remembers the settings of the last load that succeeded and the watchers that are to be told
of a **reload**, in the order in which they registered. A load that fails, in whatever way, changes
nothing, and then nobody is told anything.

Watchers are values here: a reload says which of them are to be told what, and whoever holds the
store tells them. A watcher that fails does not concern the store.

A document is read however deep it is nested.
-/

namespace Lockable

/-- The path of the configuration when none is given. -/
def defaultConfigPath : String := "config/lockdesk.yml"

/-- The words for octets that are no text: which ones, where, and what is wrong with them. Positions
are counted from `base`. -/
def notUtf8Words (octets : List UInt8) (base : Nat) (f : Utf8.Fault) : String :=
  let first := f.start - base
  if f.stop = f.start + 1 then
    let code := String.ofList (Text.hexDigits 2 (octets.getD f.start 0).toNat)
    s!"'utf-8' codec can't decode byte 0x{code} in position {first}: {f.flaw.text}"
  else
    s!"'utf-8' codec can't decode bytes in position {first}-{f.stop - 1 - base}: {f.flaw.text}"

/-- Where the piece begins in which a fault is met, when octets are read 8192 at a time. What a
piece ends with and is not yet a character begins the next piece. -/
def pieceOf (f : Utf8.Fault) : Nat :=
  match f.flaw with
  | .badStart => f.start / 8192 * 8192
  | .badContinuation => min f.start (f.stop / 8192 * 8192)
  | .cutShort => f.start

/-- A text in which every line ends in a line feed, whatever it ended in before. -/
def lineFeeds : List Char → List Char
  | '\r' :: '\n' :: rest => '\n' :: lineFeeds rest
  | '\r' :: rest => '\n' :: lineFeeds rest
  | c :: rest => c :: lineFeeds rest
  | [] => []

/-- The document of the octets of a YAML file. -/
def readYaml (formats : Formats) (shown : String) (octets : List UInt8) :
    Except Failure Document :=
  let refused := Failure.configuration (.badYaml shown (formats.yamlWords shown octets))
  match Utf8.fault? 0 octets with
  | some f =>
    if formats.early octets then .error refused
    else .error (.notUtf8 (notUtf8Words octets (pieceOf f) f))
  | none =>
    match Yaml.readDocument (lineFeeds (Utf8.decode octets)) with
    | .ok d => .ok d
    | .error .malformed => .error refused
    | .error (.unmakable cause) => .error cause.failure

/-- The document of the octets of a TOML file. -/
def readToml (formats : Formats) (shown : String) (octets : List UInt8) :
    Except Failure Document :=
  match Utf8.fault? 0 octets with
  | some f => .error (.notUtf8 (notUtf8Words octets 0 f))
  | none =>
    match Toml.readDocument (Utf8.decode octets) with
    | .ok d => .ok d
    | .error .malformed =>
      .error (.configuration (.badToml shown (formats.tomlWords shown octets)))
    | .error (.tooLong digits) => .error (.wrongValue (tooManyDigits digits))

/-- The document of a configuration file, read by the format that its suffix names. -/
def readConfiguration (files : Files) (path : String) : Except Failure Document :=
  let shown := Path.normalize path
  let suffix := Path.suffix path
  match files.unseen? path with
  | some e => .error e.failure
  | none =>
    if !files.exists? path then .error (.configuration (.noFile shown))
    else if suffix = ".yml" ∨ suffix = ".yaml" then do
      readYaml files.formats shown (← files.octets path)
    else if suffix = ".toml" then do
      readToml files.formats shown (← files.octets path)
    else .error (.configuration (.badFormat suffix))

/-- A store of settings, with watchers of some kind. -/
structure SettingsStore (ω : Type) where
  path : String
  settings : Option Settings := none
  watchers : List ω := []

namespace SettingsStore

variable {ω : Type}

/-- A store for a path, or for the one that the environment names, or for the usual one. -/
def forPath (path : Option String) (environment : List (String × String)) : SettingsStore ω :=
  { path := path.getD ((Keyed.find? "LOCKDESK_CONFIG" environment).getD defaultConfigPath) }

/-- Reads the settings from the file. -/
def read (files : Files) (store : SettingsStore ω) : Except Failure Settings := do
  let d ← readConfiguration files store.path
  Settings.ofDocument d (files.formats.checkWords d)

/-- Loads the settings: the store afterwards and the outcome. -/
def load (files : Files) (store : SettingsStore ω) : SettingsStore ω × Except Failure Settings :=
  match store.read files with
  | .ok s => ({ store with settings := some s }, .ok s)
  | .error e => (store, .error e)

/-- Loads the settings anew. When that succeeds, the watchers that are to be told of them, in
order. -/
def reload (files : Files) (store : SettingsStore ω) :
    SettingsStore ω × Except Failure (Settings × List ω) :=
  match store.load files with
  | (store, .ok s) => (store, .ok (s, store.watchers))
  | (store, .error e) => (store, .error e)

/-- The settings of the last load that succeeded; the file is read only if there was none. -/
def get (files : Files) (store : SettingsStore ω) : SettingsStore ω × Except Failure Settings :=
  match store.settings with
  | some s => (store, .ok s)
  | none => store.load files

/-- Registers a watcher. -/
def register (watcher : ω) (store : SettingsStore ω) : SettingsStore ω :=
  { store with watchers := store.watchers ++ [watcher] }

end SettingsStore

/-! ### Runs of a store -/

/-- A watcher that notes the user of the settings it is told of, or fails. -/
structure Watcher where
  name : String
  broken : Bool
  deriving DecidableEq, Repr

/-- A store with its files and what its watchers have noted. -/
structure StoreBench where
  files : Files
  store : SettingsStore Watcher
  seen : List (String × Option String) := []

namespace StoreBench

/-- One thing done to a store or to its files. -/
inductive Step where
  | load
  | reload
  | get
  | write (path text : String)
  | delete (path : String)
  | register (watcher : Watcher)

/-- What the watchers note of some settings. -/
def notes (s : Settings) (watchers : List Watcher) : List (String × Option String) :=
  (watchers.filter (!·.broken)).map fun w => (w.name, s.session.user)

/-- One step: the bench afterwards and the outcome, with settings if the step asks for them. -/
def step (b : StoreBench) : Step → StoreBench × Except Failure (Option Settings)
  | .load =>
    let (store, outcome) := b.store.load b.files
    ({ b with store }, outcome.map some)
  | .get =>
    let (store, outcome) := b.store.get b.files
    ({ b with store }, outcome.map some)
  | .reload =>
    match b.store.reload b.files with
    | (store, .ok (s, watchers)) =>
      ({ b with store, seen := b.seen ++ notes s watchers }, .ok (some s))
    | (store, .error e) => ({ b with store }, .error e)
  | .write path text =>
    ({ b with files := b.files.write path (Utf8.encode text.toList) }, .ok none)
  | .delete path => ({ b with files := b.files.delete path }, .ok none)
  | .register watcher => ({ b with store := b.store.register watcher }, .ok none)

/-- The benches and outcomes of a run, one for each step. -/
def run : StoreBench → List Step → List (StoreBench × Except Failure (Option Settings))
  | _, [] => []
  | b, s :: rest =>
    let after := b.step s
    after :: run after.1 rest

end StoreBench

end Lockable
