import Lockable.Yaml.Node

/-!
# Documents from YAML

The configuration document that a tree of nodes stands for. A mapping may **merge** others under
the key `<<`: their entries come first, so that its own win, and of several the earlier wins.
-/

namespace Lockable.Yaml

/-- The entries of a mapping as they come: those merged from elsewhere and its own. -/
structure Gathered where
  merged : List (Document × Document) := []
  own : List (Document × Document) := []

/-- All entries, those that win last. -/
def Gathered.all (g : Gathered) : List (Document × Document) := g.merged ++ g.own

mutual

/-- The document of a node. -/
def Node.toDocument : Node → Reading Document
  | .scalar tag text => makeScalar tag text
  | .sequence tag items =>
    match tag with
    | .sequence => do return .list (← itemDocuments items)
    | .pairs => do return .list (← pairDocuments items)
    | .orderedMap => do return .list (← pairDocuments items)
    | _ => malformed
  | .mapping tag entries =>
    match tag with
    | .mapping => do return Document.ofEntries (← gatherEntries entries).all
    | .bag => do return .bag ((← gatherEntries entries).all.map (·.1))
    | _ => malformed

/-- The documents of items. -/
def itemDocuments : List Node → Reading (List Document)
  | [] => .ok []
  | n :: rest => do
    let d ← n.toDocument
    return d :: (← itemDocuments rest)

/-- The documents of items each of which is a mapping with one entry. -/
def pairDocuments : List Node → Reading (List Document)
  | [] => .ok []
  | .mapping _ [(k, v)] :: rest => do
    let key ← k.toDocument
    let value ← v.toDocument
    return .list [key, value] :: (← pairDocuments rest)
  | _ => malformed

/-- The entries of a mapping; a key must be a value that cannot change. -/
def gatherEntries : List (Node × Node) → Reading Gathered
  | [] => .ok {}
  | (k, v) :: rest =>
    if k.tag = .merge then do
      let entries ← mergedEntries v
      let g ← gatherEntries rest
      return { g with merged := entries ++ g.merged }
    else do
      let key ←
        match k with
        | .scalar .default text => pure (Document.text text)
        | k => k.toDocument
      if key.isKey then
        let value ← v.toDocument
        let g ← gatherEntries rest
        return { g with own := (key, value) :: g.own }
      else malformed

/-- The entries that a merged node contributes: a mapping its own, a sequence those of its
mappings, the first mapping last. -/
def mergedEntries : Node → Reading (List (Document × Document))
  | .mapping _ entries => do return (← gatherEntries entries).all
  | .sequence _ items => mergedItems items
  | .scalar .. => malformed

/-- The entries of merged mappings, the first mapping last. -/
def mergedItems : List Node → Reading (List (Document × Document))
  | [] => .ok []
  | .mapping _ entries :: rest => do
    let first ← gatherEntries entries
    return (← mergedItems rest) ++ first.all
  | _ => malformed

end

/-- The document that a YAML text holds; null if it holds none. -/
def readDocument (text : List Char) : Reading Document := do
  match ← Node.ofTokens (← Token.scan text) with
  | none => return .null
  | some n => n.toDocument

end Lockable.Yaml
