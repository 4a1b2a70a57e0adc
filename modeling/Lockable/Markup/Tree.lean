import Lockable.Keyed
import Lockable.Markup.Token

/-!
# Markup trees

The elements and texts of a markup text. A closing tag ends the **innermost open** element of its
name and all that is open inside it; without one it does nothing. Nothing is ever closed for another
reason, save the elements that never hold anything.

* `Node.ofTokens` builds the tree, `Tree.parse` reads a text.
* `Node.text` is what an element says: not the scripts, styles and templates in it, unless it is one
  of these itself.
-/

namespace Lockable.Markup

/-- What a text belongs to. -/
inductive TextKind where
  | plain
  | characterData
  /-- The text of an element that keeps its text to itself, by its name. -/
  | own (container : String)
  /-- A comment, a declaration or an instruction. -/
  | aside
  deriving DecidableEq, Repr

/-- An element with its attributes and its nodes, or a text. -/
inductive Node where
  | element (name : String) (attributes : Keyed String String) (nodes : List Node)
  | text (kind : TextKind) (content : String)
  deriving Repr

/-- The elements that keep their text to themselves. -/
def keepsText (name : String) : Bool :=
  ["rt", "rp", "style", "script", "template"].contains name

/-- The elements that never hold anything. -/
def isVoid (name : String) : Bool :=
  ["area", "base", "br", "col", "embed", "hr", "img", "input", "keygen", "link", "menuitem", "meta",
    "param", "source", "track", "wbr", "basefont", "bgsound", "command", "frame", "image",
    "isindex", "nextid", "spacer"].contains name

/-- The elements in which blank texts stay as they are. -/
def keepsBlanks (name : String) : Bool := name = "pre" || name = "textarea"

/-- Whether the attribute of an element is a list of words. -/
def isWordList (element key : String) : Bool :=
  ["class", "accesskey", "dropzone"].contains key ||
    [("a", "rel"), ("a", "rev"), ("link", "rel"), ("link", "rev"), ("td", "headers"),
      ("th", "headers"), ("form", "accept-charset"), ("object", "archive"), ("area", "rel"),
      ("icon", "sizes"), ("iframe", "sandbox"), ("output", "for")].contains (element, key)

/-- The attributes of an element: the last value of each, words with one blank between them. -/
def attributesOf (element : String) (written : List (String × String)) : Keyed String String :=
  (Keyed.ofEntries written).map fun (key, value) =>
    (key, if isWordList element key then " ".intercalate (Text.words value) else value)

/-! ### Building -/

/-- An element that is not closed yet, with its nodes so far, the last first. -/
structure Unclosed where
  name : String
  attributes : Keyed String String := []
  nodes : List Node := []

/-- A tree that is being built: the open elements, the innermost first, the nodes outside all of
them, and the text that was read since the last tag. -/
structure Builder where
  unclosed : List Unclosed := []
  nodes : List Node := []
  pending : Option (List Char) := none
  /-- The void elements whose closing tag would come too late. -/
  closedEarly : List String := []

namespace Builder

/-- Adds a node to the innermost open element. -/
def add (b : Builder) (node : Node) : Builder :=
  match b.unclosed with
  | inner :: outer => { b with unclosed := { inner with nodes := node :: inner.nodes } :: outer }
  | [] => { b with nodes := node :: b.nodes }

/-- Whether the text holds nothing but the blanks of ASCII. -/
def isSpace (content : List Char) : Bool :=
  content.all fun c => [' ', '\n', '\t', Char.ofNat 12, '\r'].contains c

/-- Adds the pending text as a text of some kind. A text of blanks becomes one blank, or one line
break if it has any. -/
def flushAs (b : Builder) (kind : TextKind) : Builder :=
  match b.pending with
  | none => b
  | some content =>
    let keeps := b.unclosed.any fun e => keepsBlanks e.name
    let content := if isSpace content && !keeps then
        (if content.contains '\n' then ['\n'] else [' '])
      else content
    let kind := match kind, b.unclosed.find? fun e => keepsText e.name with
      | .plain, some e => .own e.name
      | _, _ => kind
    { b with pending := none }.add (.text kind (String.ofList content))

/-- Adds the pending text where it stands. -/
def flush (b : Builder) : Builder := b.flushAs .plain

/-- Closes the innermost open element. -/
def pop (b : Builder) : Builder :=
  match b.unclosed with
  | inner :: outer =>
    { b with unclosed := outer }.add (.element inner.name inner.attributes inner.nodes.reverse)
  | [] => b

/-- Closes open elements up to the innermost one of a name, if there is one. -/
def close (b : Builder) (name : String) : Builder :=
  match b.unclosed.findIdx? (·.name = name) with
  | some depth => (List.range (depth + 1)).foldl (fun b _ => b.pop) b
  | none => b

/-- Meets a closing tag. -/
def closing (b : Builder) (name : String) : Builder :=
  if b.closedEarly.contains name then { b with closedEarly := b.closedEarly.erase name }
  else b.flush.close name

/-- Opens an element. -/
def opening (b : Builder) (name : String) (attributes : List (String × String)) : Builder :=
  let b := b.flush
  { b with unclosed := { name, attributes := attributesOf name attributes } :: b.unclosed }

/-- Adds a text of its own kind. -/
def lone (b : Builder) (kind : TextKind) (content : List Char) : Builder :=
  { b.flush with pending := some content }.flushAs kind

/-- Adds one token. -/
def token (b : Builder) : Token → Builder
  | .text content => { b with pending := some (b.pending.getD [] ++ content) }
  | .opening name attributes true => (b.opening name attributes).closing name
  | .opening name attributes false =>
    let b := b.opening name attributes
    if isVoid name then { b.close name with closedEarly := b.closedEarly ++ [name] } else b
  | .closing name => b.closing name
  | .characterData content => b.lone .characterData content
  | .aside => b.lone .aside []

/-- The nodes when all tokens were added. -/
def finish (b : Builder) : List Node :=
  let b := b.flush
  ((List.range b.unclosed.length).foldl (fun b _ => b.pop) b).nodes.reverse

end Builder

/-- The nodes that the tokens make. -/
def Node.ofTokens (tokens : List Token) : List Node := (tokens.foldl Builder.token {}).finish

/-- The nodes of a markup text. -/
def parse (markup : String) : Except Fault (List Node) :=
  (Token.scan markup.toList).map Node.ofTokens

/-! ### Reading a tree -/

namespace Node

mutual

/-- The texts for which `keeps` holds, inside a node, in order. -/
def texts (keeps : TextKind → Bool) : Node → List String
  | .text kind content => if keeps kind then [content] else []
  | .element _ _ nodes => textsAll keeps nodes

/-- The texts for which `keeps` holds, inside some nodes, in order. -/
def textsAll (keeps : TextKind → Bool) : List Node → List String
  | [] => []
  | node :: rest => texts keeps node ++ textsAll keeps rest

end

/-- Whether an element of this name says texts of this kind. -/
def isOwnText (name : String) (kind : TextKind) : Bool :=
  if keepsText name then kind = .own name else kind = .plain || kind = .characterData

/-- What an element says. -/
def textOf (name : String) (nodes : List Node) : String :=
  String.join (textsAll (isOwnText name) nodes)

end Node

end Lockable.Markup
