import Lockable.Yaml.Scalar
import Lockable.Yaml.Token

/-!
# Nodes of YAML

The tree that the tokens of a document write: scalars, sequences and mappings, each with its kind.
An alias is the node of its anchor; an alias inside the very node that it names stands for an empty
node of that kind. A text holds at most one document.
-/

namespace Lockable.Yaml

/-- A node of a document. -/
inductive Node where
  | scalar (tag : Tag) (text : String)
  | sequence (tag : Tag) (items : List Node)
  | mapping (tag : Tag) (entries : List (Node × Node))

namespace Node

instance : Inhabited Node := ⟨.scalar .null ""⟩

/-- The kind of a node. -/
def tag : Node → Tag
  | .scalar t _ => t
  | .sequence t _ => t
  | .mapping t _ => t

/-- What reading nodes rests on and changes: the tokens that are left, the anchors so far, and what
the tag handles stand for. -/
structure Source where
  tokens : List Token
  anchors : List (String × Node) := []
  handles : List (String × String)

/-- The handles that need no directive. -/
def usualHandles : List (String × String) := [("!", "!"), ("!!", Tag.stem)]

/-- The scalar that stands where nothing was written. -/
def empty : Node := .scalar .null ""

/-- What may be written in front of a node. -/
structure Properties where
  anchor : Option String := none
  tag : Option (Option String × String) := none

/-- The anchor and the tag in front of a node, in either order. -/
def takeProperties : List Token → Properties × List Token
  | .anchor a :: .tag h t :: rest => (⟨some a, some (h, t)⟩, rest)
  | .tag h t :: .anchor a :: rest => (⟨some a, some (h, t)⟩, rest)
  | .anchor a :: rest => (⟨some a, none⟩, rest)
  | .tag h t :: rest => (⟨none, some (h, t)⟩, rest)
  | tokens => ({}, tokens)

/-- The address of a tag in front of a node; none if the node has to find its own kind. -/
def tagAddress (s : Source) : Option (Option String × String) → Reading (Option String)
  | none => .ok none
  | some (none, suffix) => .ok (if suffix = "!" then none else some suffix)
  | some (some handle, suffix) =>
    match Keyed.find? handle s.handles with
    | none => malformed
    | some stem => .ok (if stem ++ suffix = "!" then none else some (stem ++ suffix))

/-- The node of a scalar: a plain one finds its kind by its spelling, and so does one whose tag is a
lone exclamation mark. -/
def ofScalar (text : String) (plain lone : Bool) : Option String → Node
  | some address => .scalar (.ofAddress address) text
  | none => if plain || lone then .scalar (.ofPlain text) text else .scalar .text text

/-- The kind of a collection. -/
def collectionTag (usual : Tag) : Option String → Tag
  | some address => .ofAddress address
  | none => usual

/-- Names a node by an anchor, if there is one. -/
def anchored (anchor : Option String) (n : Node) (s : Source) : Source :=
  match anchor with
  | some a => { s with anchors := (a, n) :: s.anchors }
  | none => s

/-- A node that has been read to its end, its anchor now naming the whole of it. -/
def closed (anchor : Option String) (n : Node) (s : Source) : Node × Source :=
  match anchor with
  | some a => (n, { s with anchors := Keyed.insert a n s.anchors })
  | none => (n, s)

/-- The source without its first token. -/
def Source.drop (s : Source) : Source := { s with tokens := s.tokens.drop 1 }

/-- Whether the next token is one of some. -/
def Source.at (s : Source) (p : Token → Bool) : Bool := s.tokens.head?.any p

/-- The tokens at which a value may be missing in a block mapping. -/
def endsBlockValue (t : Token) : Bool := t = .key || t = .value || t = .blockEnd

mutual

/-- One node. `block` says whether it may be a block collection, `indentless` whether it may be a
sequence of dashes in the column of its parent. -/
def read (block indentless : Bool) : Nat → Source → Reading (Node × Source)
  | 0, _ => malformed
  | fuel + 1, s =>
    match s.tokens with
    | .alias name :: rest =>
      match Keyed.find? name s.anchors with
      | some n => .ok (n, { s with tokens := rest })
      | none => malformed
    | tokens => do
      let (properties, tokens) := takeProperties tokens
      let address ← tagAddress s properties.tag
      let s := { s with tokens }
      let lone := properties.tag.isSome && address.isNone
      let anchor := properties.anchor
      if anchor.any fun a => (Keyed.find? a s.anchors).isSome then malformed
      else
        let seqTag := collectionTag .sequence address
        let mapTag := collectionTag .mapping address
        let seqOpen := anchored anchor (.sequence seqTag []) s
        let mapOpen := anchored anchor (.mapping mapTag []) s
        let nothing : Reading (Node × Source) :=
          if anchor.isSome || properties.tag.isSome then
            let n := ofScalar "" true lone address
            .ok (n, anchored anchor n s)
          else malformed
        match tokens with
        | .scalar text plain :: rest =>
          let n := ofScalar text (plain && properties.tag.isNone) lone address
          return (n, anchored anchor n { s with tokens := rest })
        | .flowSequenceStart :: _ => do
          let (items, s) ← readFlowItems true fuel seqOpen.drop
          return closed anchor (.sequence seqTag items) s
        | .flowMappingStart :: _ => do
          let (entries, s) ← readFlowEntries true fuel mapOpen.drop
          return closed anchor (.mapping mapTag entries) s
        | .blockEntry :: _ =>
          if indentless then do
            let (items, s) ← readDashes fuel seqOpen
            return closed anchor (.sequence seqTag items) s
          else nothing
        | .blockSequenceStart :: _ =>
          if block then do
            let (items, s) ← readBlockItems fuel seqOpen.drop
            return closed anchor (.sequence seqTag items) s
          else nothing
        | .blockMappingStart :: _ =>
          if block then do
            let (entries, s) ← readBlockEntries fuel mapOpen.drop
            return closed anchor (.mapping mapTag entries) s
          else nothing
        | _ => nothing

/-- A node, or the empty scalar before a token at which it may be missing. -/
def readUnless (missing : Token → Bool) (block indentless : Bool) :
    Nat → Source → Reading (Node × Source)
  | 0, _ => malformed
  | fuel + 1, s => if s.at missing then .ok (empty, s) else read block indentless fuel s

/-- The items of a block sequence up to its end. -/
def readBlockItems : Nat → Source → Reading (List Node × Source)
  | 0, _ => malformed
  | fuel + 1, s =>
    if s.at (· = .blockEntry) then do
      let (item, s) ← readUnless (fun t => t = .blockEntry || t = .blockEnd) true false fuel s.drop
      let (items, s) ← readBlockItems fuel s
      return (item :: items, s)
    else if s.at (· = .blockEnd) then .ok ([], s.drop)
    else malformed

/-- The items of a sequence in the column of its parent. -/
def readDashes : Nat → Source → Reading (List Node × Source)
  | 0, _ => malformed
  | fuel + 1, s =>
    if s.at (· = .blockEntry) then do
      let (item, s) ←
        readUnless (fun t => t = .blockEntry || endsBlockValue t) true false fuel s.drop
      let (items, s) ← readDashes fuel s
      return (item :: items, s)
    else .ok ([], s)

/-- The entries of a block mapping up to its end. -/
def readBlockEntries : Nat → Source → Reading (List (Node × Node) × Source)
  | 0, _ => malformed
  | fuel + 1, s =>
    if s.at (· = .blockEnd) then .ok ([], s.drop)
    else if s.at (· = .key) then do
      let (key, s) ← readUnless endsBlockValue true true fuel s.drop
      let (value, s) ←
        if s.at (· = .value) then readUnless endsBlockValue true true fuel s.drop
        else pure (empty, s)
      let (entries, s) ← readBlockEntries fuel s
      return ((key, value) :: entries, s)
    else malformed

/-- The items of a sequence in brackets; an item may be a single entry of a mapping. -/
def readFlowItems (first : Bool) : Nat → Source → Reading (List Node × Source)
  | 0, _ => malformed
  | fuel + 1, s =>
    if s.at (· = .flowSequenceEnd) then .ok ([], s.drop)
    else do
      let s ←
        if first then pure s
        else if s.at (· = .flowEntry) then pure s.drop
        else malformed
      if s.at (· = .flowSequenceEnd) then return ([], s.drop)
      else if s.at (· = .key) then
        let ends (t : Token) : Bool := t = .flowEntry || t = .flowSequenceEnd
        let (key, s) ← readUnless (fun t => t = .value || ends t) false false fuel s.drop
        let (value, s) ←
          if s.at (· = .value) then readUnless ends false false fuel s.drop else pure (empty, s)
        let (items, s) ← readFlowItems false fuel s
        return (.mapping .mapping [(key, value)] :: items, s)
      else
        let (item, s) ← read false false fuel s
        let (items, s) ← readFlowItems false fuel s
        return (item :: items, s)

/-- The entries of a mapping in braces; a key may stand without a value. -/
def readFlowEntries (first : Bool) : Nat → Source → Reading (List (Node × Node) × Source)
  | 0, _ => malformed
  | fuel + 1, s =>
    if s.at (· = .flowMappingEnd) then .ok ([], s.drop)
    else do
      let s ←
        if first then pure s
        else if s.at (· = .flowEntry) then pure s.drop
        else malformed
      if s.at (· = .flowMappingEnd) then return ([], s.drop)
      else if s.at (· = .key) then
        let ends (t : Token) : Bool := t = .flowEntry || t = .flowMappingEnd
        let (key, s) ← readUnless (fun t => t = .value || ends t) false false fuel s.drop
        let (value, s) ←
          if s.at (· = .value) then readUnless ends false false fuel s.drop else pure (empty, s)
        let (entries, s) ← readFlowEntries false fuel s
        return ((key, value) :: entries, s)
      else
        let (key, s) ← read false false fuel s
        let (entries, s) ← readFlowEntries false fuel s
        return ((key, empty) :: entries, s)

end

/-! ### Documents -/

/-- The directives in front of a document: the handles they declare, and the rest. A version is
given once and is the first, a handle is declared once. -/
def takeDirectives : Bool → List (String × String) → List Token →
    Reading (List (String × String) × List Token)
  | versioned, handles, .directive d :: rest =>
    match d with
    | .version major =>
      if versioned || major ≠ 1 then malformed else takeDirectives true handles rest
    | .handle handle stem =>
      if (Keyed.find? handle handles).isSome then malformed
      else takeDirectives versioned ((handle, stem) :: handles) rest
    | .other => takeDirectives versioned handles rest
  | _, handles, tokens => .ok (handles ++ usualHandles, tokens)

/-- The tokens after a document: any number of end markers, and nothing else. -/
def ended (tokens : List Token) : Bool := tokens.all (· = .documentEnd)

/-- The document that begins at the first token. -/
def readContent (handles : List (String × String)) (tokens : List Token) : Reading Node := do
  let fuel := 4 * tokens.length + 8
  let missing := match tokens.head? with
    | none | some .documentStart | some .documentEnd | some (.directive _) => true
    | _ => false
  if missing then
    if ended tokens then return empty else malformed
  else
    let (n, s) ← read true false fuel ⟨tokens, [], handles⟩
    if ended s.tokens then return n else malformed

/-- The one document of a text, none if the text holds none. -/
def ofTokens (tokens : List Token) : Reading (Option Node) := do
  match tokens with
  | [] => return none
  | .directive _ :: _ | .documentStart :: _ =>
    let (handles, rest) ← takeDirectives false [] tokens
    match rest with
    | .documentStart :: rest => return some (← readContent handles rest)
    | _ => malformed
  | _ =>
    let (n, s) ← read true false (4 * tokens.length + 8) ⟨tokens, [], usualHandles⟩
    if ended s.tokens then return some n else malformed

end Node

end Lockable.Yaml
