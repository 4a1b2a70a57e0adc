import Lockable.Toml.Value

/-!
# Documents from TOML

A TOML text is a sequence of lines: headers, which open a table or add one to an array of tables,
and keys with their values, which go into the table that is open. A table is opened by its header
at most once, and a table that dotted keys have made cannot be opened at all.
-/

namespace Lockable.Toml

/-- What the lines so far have built: the tables, the path of the open one, the paths that no
header may open any more, and those that will be such from the next header on. -/
structure Build where
  entries : Tree.Entries := []
  header : List String := []
  closed : List (List String) := []
  pending : List (List String) := []

namespace Build

/-- A header begins: what was pending is closed. -/
def settle (b : Build) : Build := { b with closed := b.pending ++ b.closed, pending := [] }

/-- Opens a table. -/
def openTable (key : List String) (b : Build) : Option Build :=
  if b.closed.contains key then none
  else do
    let entries ← Tree.alterAt some key b.entries
    return { b with entries, header := key, closed := key :: b.closed }

/-- Adds a table to an array of tables. What was closed below the array may be opened anew. -/
def openItem (key : List String) (b : Build) : Option Build := do
  let entries ← Tree.alterAt (Tree.addTable (key.getLastD "")) key.dropLast b.entries
  let closed := key :: b.closed.filter fun path => !key.isPrefixOf path
  return { b with entries, header := key, closed }

/-- The proper prefixes of a dotted key, below the open table. -/
def stems (header key : List String) : List (List String) :=
  ((List.range key.length).filter (0 < ·)).map fun n => header ++ key.take n

/-- Adds a value to the open table. -/
def addValue (key : List String) (value : Document) (b : Build) : Option Build :=
  let stems := stems b.header key
  if stems.any b.closed.contains then none
  else do
    let path := b.header ++ key.dropLast
    let entries ← Tree.alterAt (Tree.addLeaf (key.getLastD "") value) path b.entries
    return { b with entries, pending := stems ++ b.pending }

/-- One line, from its first character that is no blank; the rest begins after what the line
says. -/
def line (cs : List Char) (b : Build) : Reading (Build × List Char) :=
  let fuel := cs.length + 1
  match cs with
  | '[' :: '[' :: rest => do
    let (key, rest) ← takeKey fuel (skipBlanks rest)
    return (← b.settle.openItem key, ← after? "]]" rest)
  | '[' :: rest => do
    let (key, rest) ← takeKey fuel (skipBlanks rest)
    return (← b.settle.openTable key, ← after? "]" rest)
  | '#' :: _ => .ok (b, cs)
  | _ => do
    let (key, rest) ← takeKey fuel cs
    let rest ← after? "=" rest
    let (value, rest) ← takeValue fuel (skipBlanks rest)
    return (← b.addValue key value, rest)

/-- The lines of a text, one after another. -/
def lines : Nat → List Char → Build → Reading Build
  | 0, _, _ => .error .malformed
  | fuel + 1, cs, b =>
    match skipBlanks cs with
    | [] => .ok b
    | '\n' :: rest => lines fuel rest b
    | cs => do
      let (b, rest) ← b.line cs
      match ← (skipComment (skipBlanks rest) : Option _) with
      | [] => .ok b
      | '\n' :: rest => lines fuel rest b
      | _ => .error .malformed

end Build

/-- The text with each pair of carriage return and line feed as one line feed. -/
def joinLineEnds : List Char → List Char
  | '\r' :: '\n' :: rest => '\n' :: joinLineEnds rest
  | c :: rest => c :: joinLineEnds rest
  | [] => []

/-- The document that a TOML text holds. -/
def readDocument (text : List Char) : Reading Document :=
  let cs := joinLineEnds text
  (Build.lines (cs.length + 1) cs {}).map fun b => .mapping (Tree.entryDocuments b.entries)

end Lockable.Toml
