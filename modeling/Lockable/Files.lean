import Lockable.Document
import Lockable.Keyed
import Lockable.Text.Blank
import Lockable.Text.Utf8

/-!
# Files

The files that configurations are read from, below one working directory. Paths are kept in one
form: no empty and no `.` components, `..` left as it is, and `.` for the directory itself.

What the system and the readers of the formats say of a path or a file is no matter of this library,
and is taken as it comes (`Files.unseen?`, `Files.locked?`, `Files.formats`).
-/

namespace Lockable

namespace Path

/-- The components of a path that say where to go. -/
def components (path : String) : List String :=
  ((Text.splitOn (· = '/') path.toList).map String.ofList).filter fun c => c ≠ "" && c ≠ "."

/-- What a path begins with: nothing, or the root, which two slashes name differently from one. -/
def root (path : String) : String :=
  match path.toList with
  | '/' :: '/' :: '/' :: _ => "/"
  | '/' :: '/' :: _ => "//"
  | '/' :: _ => "/"
  | _ => ""

/-- The one form of a path. -/
def normalize (path : String) : String :=
  let text := root path ++ "/".intercalate (components path)
  if text = "" then "." else text

/-- A path below a directory, unless it begins at the root. -/
def join (directory path : String) : String :=
  if root path ≠ "" then normalize path else normalize (directory ++ "/" ++ path)

/-- The last component of a path. -/
def name (path : String) : String := (components path).getLastD ""

/-- The suffix of a path: the last point of its name and what follows, unless the name begins or
ends with that point. -/
def suffix (path : String) : String :=
  let name := (name path).toList
  let after := (name.reverse.takeWhile (· ≠ '.')).reverse
  let before := name.length - after.length - 1
  if after.isEmpty || after.length = name.length || before = 0 then ""
  else String.ofList ('.' :: after)

/-- Where a path leads: `..` takes back the component before it. -/
def resolve (path : String) : List String :=
  (components path).foldl (fun done c => if c = ".." then done.dropLast else done ++ [c]) []

end Path

/-- What the readers of the formats, and the check of what they have read, say beyond that something
is wrong: of a path and its octets, or of a document. -/
structure Formats where
  yamlWords : String → List UInt8 → String
  tomlWords : String → List UInt8 → String
  checkWords : Document → String
  /-- Whether YAML, which is read in pieces, is refused before the octets that are those of no text
  are met. -/
  early : List UInt8 → Bool
  /-- The first piece is read before anything is refused. -/
  not_early : ∀ octets f, Utf8.fault? 0 octets = some f → f.start < 4096 → early octets = false

/-- Formats whose readers use no words of their own, and read a text to its end first. -/
def Formats.plain : Formats where
  yamlWords _ _ := ""
  tomlWords _ _ := ""
  checkWords _ := ""
  early _ := false
  not_early _ _ _ _ := rfl

/-- Files by where they lie, each with its octets; which paths cannot be looked at and which files
cannot be read, and why; and the formats that files are read in. -/
structure Files where
  entries : List (List String × List UInt8) := []
  unseen? : String → Option Foreign := fun _ => none
  locked? : String → Option Foreign := fun _ => none
  formats : Formats := .plain

namespace Files

/-- The octets of a file. -/
def read? (files : Files) (path : String) : Option (List UInt8) :=
  Keyed.find? (Path.resolve path) files.entries

/-- Writes a file anew. -/
def write (path : String) (octets : List UInt8) (files : Files) : Files :=
  { files with entries := Keyed.insert (Path.resolve path) octets files.entries }

/-- Takes a file away. -/
def delete (path : String) (files : Files) : Files :=
  { files with entries := Keyed.erase (Path.resolve path) files.entries }

/-- Whether the path leads to a directory: the working directory, or one that a file lies in. -/
def isDirectory (files : Files) (path : String) : Bool :=
  let place := Path.resolve path
  place.isEmpty || files.entries.any fun f => place.isPrefixOf f.1 && place.length < f.1.length

/-- Whether there is anything at the path. -/
def exists? (files : Files) (path : String) : Bool :=
  (files.read? path).isSome || files.isDirectory path

/-- The octets of the file at a path where there is something. -/
def octets (files : Files) (path : String) : Except Failure (List UInt8) :=
  match files.locked? path, files.read? path with
  | some e, _ => .error e.failure
  | none, some octets => .ok octets
  | none, none => .error (.isDirectory (Path.normalize path))

/-- Files from their paths and texts. -/
def ofTexts (texts : List (String × String)) : Files :=
  texts.foldl (fun files f => files.write f.1 (Utf8.encode f.2.toList)) {}

end Files

end Lockable
