import Lockable.Failure

/-!
# Configuration documents

What a configuration file holds once it is read, in whichever format it was written: nested lists
and mappings of plain values. Mappings may have any value as a key. Dates, times and octets occur
but mean nothing to a configuration; they are kept by kind and by how they are shown.
-/

namespace Lockable

/-- The value of a configuration document. -/
inductive Document where
  | null
  | bool (value : Bool)
  | int (value : Int)
  | float (value : Binary64)
  | text (value : String)
  | list (items : List Document)
  | mapping (entries : List (Document × Document))
  /-- A date or time: its kind and how it is shown. -/
  | moment (kind shown : String)
  | octets (value : List UInt8)
  /-- An unordered collection of values. -/
  | bag (items : List Document)
  deriving Inhabited

namespace Document

/-- The name of the kind of a value. -/
def kind : Document → String
  | .null => "NoneType"
  | .bool _ => "bool"
  | .int _ => "int"
  | .float _ => "float"
  | .text _ => "str"
  | .list _ => "list"
  | .mapping _ => "dict"
  | .moment kind _ => kind
  | .octets _ => "bytes"
  | .bag _ => "set"

/-- Whether a document counts as given. -/
def truthy : Document → Bool
  | .null => false
  | .bool b => b
  | .int n => n != 0
  | .float x => !x.isZero
  | .text s => !s.isEmpty
  | .list items => !items.isEmpty
  | .mapping entries => !entries.isEmpty
  | .moment .. => true
  | .octets bs => !bs.isEmpty
  | .bag items => !items.isEmpty

/-- A value without items as the JSON value it is, if it is one. -/
def scalar? : Document → Option Json
  | .null => some .null
  | .bool b => some (.bool b)
  | .int n => some (.int n)
  | .float x => some (.float x)
  | .text s => some (.text s)
  | _ => none

/-- How a key that is no text is shown in the place of a complaint. -/
def shownKey : Document → String
  | .moment _ shown => shown
  | .octets bs => Text.quotedOctets bs
  | d => (d.scalar?.map Json.shown).getD d.kind

/-- Whether two keys are the same key. -/
def sameKey : Document → Document → Bool
  | .moment k s, .moment k' s' => k == k' && s == s'
  | .octets a, .octets b => a == b
  | d, e =>
    match d.scalar?, e.scalar? with
    | some a, some b => a.same b
    | _, _ => false

/-- Whether a value can be a key: all can but the ones that can change. -/
def isKey : Document → Bool
  | .list _ => false
  | .mapping _ => false
  | .bag _ => false
  | _ => true

/-- Sets a key of a mapping: in its old place if it has one, else at the end. -/
def insertEntry (key value : Document) : List (Document × Document) → List (Document × Document)
  | [] => [(key, value)]
  | (k, v) :: rest =>
    if sameKey k key then (k, value) :: rest else (k, v) :: insertEntry key value rest

/-- The mapping of these entries, a later value of a key replacing an earlier one. -/
def ofEntries (entries : List (Document × Document)) : Document :=
  .mapping (entries.foldl (fun done e => insertEntry e.1 e.2 done) [])

/-- The value under a text key of a mapping. -/
def find? (key : String) : List (Document × Document) → Option Document
  | [] => none
  | (.text k, v) :: rest => if k = key then some v else find? key rest
  | _ :: rest => find? key rest

mutual

/-- A JSON value as a document. -/
def ofJson : Json → Document
  | .null => .null
  | .bool b => .bool b
  | .int n => .int n
  | .float x => .float x
  | .text s => .text s
  | .list items => .list (ofJsonItems items)
  | .object members => .mapping (ofJsonMembers members)

/-- JSON items as documents. -/
def ofJsonItems : List Json → List Document
  | [] => []
  | j :: rest => ofJson j :: ofJsonItems rest

/-- JSON members as entries. -/
def ofJsonMembers : List (String × Json) → List (Document × Document)
  | [] => []
  | (k, v) :: rest => (.text k, ofJson v) :: ofJsonMembers rest

end

end Document

end Lockable
