import Lockable.Document

/-!
# Tables of TOML

The tables that the lines of a TOML text build up. A value that was written as one, inline tables
and arrays included, is a **leaf** and cannot be extended; a table can, through its header or
through dotted keys; an array of tables is extended in its last element.
-/

namespace Lockable.Toml

/-- What stands under a key: a value, a table, or an array of tables. -/
inductive Tree where
  | leaf (value : Document)
  | table (entries : List (String × Tree))
  | tables (items : List (List (String × Tree)))

namespace Tree

/-- The entries of a table. -/
abbrev Entries : Type := List (String × Tree)

/-- Changes the table at a path below some entries, creating the tables on the way. It fails if
there is a value on the way or if the change fails. -/
def alterAt (change : Entries → Option Entries) : List String → Entries → Option Entries
  | [], entries => change entries
  | key :: path, entries =>
    match Keyed.find? key entries with
    | none => do return Keyed.insert key (.table (← alterAt change path [])) entries
    | some (.table inner) => do
      return Keyed.insert key (.table (← alterAt change path inner)) entries
    | some (.tables items) =>
      match items.reverse with
      | [] => none
      | last :: before => do
        let last ← alterAt change path last
        return Keyed.insert key (.tables (before.reverse ++ [last])) entries
    | some (.leaf _) => none

/-- Adds a value under a key that must be new. -/
def addLeaf (key : String) (value : Document) (entries : Entries) : Option Entries :=
  match Keyed.find? key entries with
  | some _ => none
  | none => some (Keyed.insert key (.leaf value) entries)

/-- Adds an empty table to the array of tables under a key. -/
def addTable (key : String) (entries : Entries) : Option Entries :=
  match Keyed.find? key entries with
  | none => some (Keyed.insert key (.tables [[]]) entries)
  | some (.tables items) => some (Keyed.insert key (.tables (items ++ [[]])) entries)
  | some _ => none

mutual

/-- The document of what stands under a key. -/
def toDocument : Tree → Document
  | .leaf value => value
  | .table entries => .mapping (entryDocuments entries)
  | .tables items => .list (tableDocuments items)

/-- The entries of a table as entries of a document. -/
def entryDocuments : List (String × Tree) → List (Document × Document)
  | [] => []
  | (k, t) :: rest => (.text k, t.toDocument) :: entryDocuments rest

/-- The elements of an array of tables as documents. -/
def tableDocuments : List (List (String × Tree)) → List Document
  | [] => []
  | entries :: rest => .mapping (entryDocuments entries) :: tableDocuments rest

end

end Tree

end Lockable.Toml
