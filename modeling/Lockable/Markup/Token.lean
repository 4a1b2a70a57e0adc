import Lockable.Markup.Reference
import Lockable.Text.LetterCase
import Lockable.Text.Quoted

/-!
# Markup tokens

The tags, texts and asides of a markup text, as a **forgiving** reader finds them: what is no tag is
text. The text is read twice: the first pass stops where more could still follow, as at an open tag
or an unfinished reference, and the second reads the rest knowing that nothing does.

* `Token.scan` is the two passes.
* The text of `script` and `style` is raw: it ends at its own closing tag only, and is left out if
  there is none.
-/

namespace Lockable.Markup

open Lockable.Text (isBlank)

/-- A piece of markup. -/
inductive Token where
  /-- A tag that opens an element, with its attributes; it may also close it. -/
  | opening (name : String) (attributes : List (String × String)) (closed : Bool)
  | closing (name : String)
  | text (content : List Char)
  /-- A marked section of character data. -/
  | characterData (content : List Char)
  /-- A comment, a declaration or an instruction. -/
  | aside
  deriving DecidableEq, Repr

/-- Why a text is refused. -/
inductive Fault where
  | unknownSection (keyword : String)
  | namelessSection (shown : String)
  deriving DecidableEq, Repr

/-- The words for a fault. -/
def Fault.message : Fault → String
  | .unknownSection keyword => s!"unknown status keyword {Text.quoted keyword} in marked section"
  | .namelessSection shown => s!"expected name token at {Text.quoted shown}"

namespace Token

/-- Where the reading of a construct ends: after it, or open at the end of the text. -/
inductive Reading where
  | done (tokens : List Token) (raw : Option String) (rest : List Char)
  | unfinished
  deriving DecidableEq, Repr

/-- The text that stands in front of a rest. -/
def before (cs rest : List Char) : List Char := cs.take (cs.length - rest.length)

/-- What follows the next `>`. -/
def afterAngle? : List Char → Option (List Char)
  | [] => none
  | c :: cs => if c = '>' then some cs else afterAngle? cs

/-! ### Opening tags -/

/-- Whether the character can be part of a tag's name. -/
def isTagPart (c : Char) : Bool :=
  c ∉ ['\t', '\n', '\r', Char.ofNat 12, ' ', '/', '>', Char.ofNat 0]

/-- The name in front of a text, if it begins with a letter, and the rest. -/
def tagName? : List Char → Option (List Char × List Char)
  | [] => none
  | c :: cs =>
    if c.isAlpha then some (c :: cs.takeWhile isTagPart, cs.dropWhile isTagPart) else none

/-- Leaves out blanks and slashes up to the end of the tag. -/
def skipGap : List Char → List Char
  | '/' :: '>' :: rest => '/' :: '>' :: rest
  | '/' :: rest => skipGap rest
  | c :: rest => if isBlank c then skipGap rest else c :: rest
  | [] => []

/-- Whether an attribute can begin right after this character. -/
def separates (c : Char) : Bool := c = '\'' || c = '"' || c = '/' || isBlank c

/-- The value up to a quote, and the rest after it. -/
def quotedValue? (quote : Char) (cs : List Char) : Option (List Char × List Char) :=
  match cs.dropWhile (· ≠ quote) with
  | _ :: rest => some (cs.takeWhile (· ≠ quote), rest)
  | [] => none

/-- The value in front of a text, in quotes or bare, and the rest. -/
def value? : List Char → Option (List Char × List Char)
  | '\'' :: cs => quotedValue? '\'' cs
  | '"' :: cs => quotedValue? '"' cs
  | cs =>
    let isBare (c : Char) : Bool := c ≠ '>' && !isBlank c
    some (cs.takeWhile isBare, cs.dropWhile isBare)

/-- The value that is assigned to an attribute, and the rest. Where a quote is not closed the value
is empty if a blank stands in front of it, and else begins at the last of several `=`. -/
def assigned? (cs : List Char) : Option (List Char × List Char) :=
  let fromSign := cs.dropWhile isBlank
  let signs := fromSign.takeWhile (· = '=')
  let afterSigns := fromSign.dropWhile (· = '=')
  let rest := afterSigns.dropWhile isBlank
  if signs.isEmpty then none
  else match value? rest with
    | some found => some found
    | none =>
      if rest.length < afterSigns.length then some ([], ' ' :: rest)
      else if 1 < signs.length then value? ('=' :: rest)
      else none

/-- The attribute in front of a text, with its value as it is written, and the rest. -/
def attribute? : List Char → Option ((List Char × Option (List Char)) × List Char)
  | [] => none
  | c :: cs =>
    if isBlank c || c = '/' || c = '>' then none
    else
      let isPart (c : Char) : Bool := !isBlank c && c ≠ '/' && c ≠ '=' && c ≠ '>'
      let name := c :: cs.takeWhile isPart
      let rest := cs.dropWhile isPart
      match assigned? rest with
      | some (value, rest) => some ((name, some value), rest)
      | none => some ((name, none), rest)

/-- The attributes in front of a text and the rest; `last` is the character before them. -/
def attributes (last : Char) (cs : List Char) : List (String × String) × List Char :=
  if separates last then
    match attribute? cs with
    | none => ([], cs)
    | some ((name, value), rest) =>
      let after := skipGap rest
      let key := Text.lower (String.ofList name)
      let entry := (key, String.ofList (Reference.resolve (value.getD [])))
      if after.length < cs.length then
        let (more, rest) := attributes ((before cs after).getLastD ' ') after
        (entry :: more, rest)
      else ([entry], after)
  else ([], cs)
  termination_by cs.length

/-- The elements whose text is raw. -/
def isRaw (name : String) : Bool := name = "script" || name = "style"

/-- Reads the tag that a text begins with. A tag that breaks off at a strange character is text. -/
def opening? (cs : List Char) : Reading :=
  match tagName? (cs.drop 1) with
  | none => .unfinished
  | some (name, rest) =>
    let after := skipGap rest
    let (found, after) := attributes ((before cs after).getLastD ' ') after
    let name := Text.lower (String.ofList name)
    match after with
    | '>' :: rest => .done [.opening name found false] (if isRaw name then some name else none) rest
    | '/' :: '>' :: rest => .done [.opening name found true] none rest
    | [] => .unfinished
    | c :: _ =>
      if c.isAlpha || c = '=' || c = '/' then .unfinished
      else .done [.text (before cs after)] none after

/-! ### Other constructs -/

/-- Whether the character can be part of the name in a plain closing tag. -/
def isClosingPart (c : Char) : Bool := c.isAlphanum || ['-', '.', ':', '_'].contains c

/-- The name in a plain closing tag, after its `</`, and the rest. -/
def plainClosing? (cs : List Char) : Option (List Char × List Char) :=
  match cs.dropWhile isBlank with
  | [] => none
  | c :: cs =>
    if c.isAlpha then
      match (cs.dropWhile isClosingPart).dropWhile isBlank with
      | '>' :: rest => some (c :: cs.takeWhile isClosingPart, rest)
      | _ => none
    else none

/-- Reads what stands after `</`. -/
def closing? (cs : List Char) : Reading :=
  match afterAngle? cs with
  | none => .unfinished
  | some rest =>
    match plainClosing? cs with
    | some (name, rest) => .done [.closing (Text.lower (String.ofList name))] none rest
    | none =>
      match tagName? cs with
      | some (name, _) => .done [.closing (Text.lower (String.ofList name))] none rest
      | none => match cs with
        | '>' :: rest => .done [] none rest
        | _ => .done [.aside] none rest

/-- What follows a run of characters with blanks between them, at the front of a text. -/
def afterSpaced? : List Char → List Char → Option (List Char)
  | [], cs => some cs
  | mark :: marks, cs => match cs.dropWhile isBlank with
    | c :: rest => if c = mark then afterSpaced? marks rest else none
    | [] => none

/-- The text before the first place where `ending` succeeds, and what follows that place. -/
def cutAt? (ending : List Char → Option (List Char)) :
    List Char → Option (List Char × List Char)
  | [] => none
  | c :: cs => match ending (c :: cs) with
    | some rest => some ([], rest)
    | none => (cutAt? ending cs).map fun (content, rest) => (c :: content, rest)

/-- The end of a comment: two dashes, blanks and `>`. -/
def commentEnd? : List Char → Option (List Char)
  | '-' :: '-' :: cs => afterSpaced? ['>'] cs
  | _ => none

/-- The end of a marked section. -/
def sectionEnd? (marks : List Char) : List Char → Option (List Char)
  | ']' :: cs => afterSpaced? marks cs
  | _ => none

/-- Whether the character can be part of a section's keyword. -/
def isKeywordPart (c : Char) : Bool := c.isAlphanum || ['-', '.', '_'].contains c

/-- The token of a marked section with this content. -/
def ofSection (content : List Char) : Token :=
  if Text.upper (String.ofList (content.take 6)) = "CDATA[" then .characterData (content.drop 6)
  else .aside

/-- Reads what stands after `<![`. -/
def markedSection? (cs : List Char) : Except Fault Reading :=
  let word := cs.takeWhile isKeywordPart
  let after := (cs.dropWhile isKeywordPart).dropWhile isBlank
  let cut (marks : List Char) : Reading := match cutAt? (sectionEnd? marks) cs with
    | some (content, rest) => .done [ofSection content] none rest
    | none => .unfinished
  if cs.isEmpty then .ok .unfinished
  else if !(word.take 1).all (·.isAlpha) || word.isEmpty then
    .error (.namelessSection (String.ofList (("<![".toList ++ cs).take 20)))
  else if after.isEmpty then .ok .unfinished
  else
    let keyword := Text.lower (String.ofList word)
    if ["temp", "cdata", "ignore", "include", "rcdata"].contains keyword then
      .ok (cut [']', '>'])
    else if ["if", "else", "endif"].contains keyword then .ok (cut ['>'])
    else .error (.unknownSection (String.ofList (before cs after)))

/-- Leaves an aside out up to the next `>`. -/
def aside? (cs : List Char) : Reading :=
  match afterAngle? cs with
  | some rest => .done [.aside] none rest
  | none => .unfinished

/-- Reads what stands after `<!`. -/
def declaration? (cs : List Char) : Except Fault Reading :=
  match cs with
  | '-' :: '-' :: body => .ok (match cutAt? commentEnd? body with
    | some (_, rest) => .done [.aside] none rest
    | none => .unfinished)
  | '[' :: body => markedSection? body
  | _ =>
    if Text.lower (String.ofList (cs.take 7)) = "doctype" then .ok (aside? (cs.drop 7))
    else .ok (aside? cs)

/-! ### Passes -/

/-- One step of a pass. -/
inductive Step where
  /-- These tokens were read, and reading goes on. -/
  | next (tokens : List Token) (raw : Option String) (rest : List Char)
  /-- The pass ends, with these last tokens. -/
  | stop (tokens : List Token) (rest : List Char)
  deriving DecidableEq, Repr

/-- What is read in the last pass where a construct is not finished: all up to the next `>`, else
up to the next `<`, else one character. -/
def givenUp (cs : List Char) : Step :=
  let tail := cs.drop 1
  let rest := match afterAngle? tail with
    | some rest => rest
    | none => match tail.dropWhile (· ≠ '<') with
      | [] => tail
      | open_ => open_
  .next [.text (before cs rest)] none rest

/-- A reading as a step. -/
def Reading.step (final : Bool) (cs : List Char) : Reading → Step
  | .done tokens raw rest => .next tokens raw rest
  | .unfinished => if final then givenUp cs else .stop [] cs

/-- Reads a construct that begins with `<`. -/
def atAngle (final : Bool) (cs : List Char) : Except Fault Step :=
  match cs.drop 1 with
  | '/' :: body => .ok ((closing? body).step final cs)
  | '!' :: body => return (← declaration? body).step final cs
  | '?' :: body => .ok ((aside? body).step final cs)
  | c :: rest =>
    if c.isAlpha then .ok ((opening? cs).step final cs)
    else .ok (.next [.text ['<']] none (c :: rest))
  | [] => .ok (.stop [] cs)

/-- Drops the semicolon that ends a reference. -/
def dropSemicolon : List Char → List Char
  | ';' :: rest => rest
  | cs => cs

/-- Reads a construct that begins with `&`. A number needs a character after it, and where it has
none but a semicolon comes later, the pass ends behind the `&#`. -/
def atAmpersand (final : Bool) (cs : List Char) : Step :=
  match cs.drop 1 with
  | '#' :: body =>
    let found := match Reference.digits? body with
      | some (base, ds, skipped) => match body.drop (skipped + ds.length) with
        | [] => none
        | c :: rest => if Reference.isHexDigit c then none
          else some (Reference.inText (Reference.number base ds), dropSemicolon (c :: rest))
      | none => none
    match found with
    | some (c, rest) => .next [.text [c]] none rest
    | none => if body.contains ';' then .stop [.text ['&', '#']] body else .stop [] cs
  | c :: rest =>
    let isPart (c : Char) : Bool := c.isAlphanum || c = '-' || c = '.'
    if c.isAlpha then
      let word := c :: rest.takeWhile isPart
      -- A name is read as far as a character outside it follows, if need be one of its own marks.
      match rest.dropWhile isPart with
      | next :: more =>
        let meaning := (Entity.find? word).getD ('&' :: word)
        .next [.text meaning] none (dropSemicolon (next :: more))
      | [] =>
        let tail := word.reverse.takeWhile (·.isAlphanum)
        match (word.reverse.dropWhile (·.isAlphanum)) with
        | mark :: shorter =>
          let word := shorter.reverse
          let meaning := (Entity.find? word).getD ('&' :: word)
          .next [.text meaning] none (mark :: tail.reverse)
        | [] => if final && rest.isEmpty then .stop [] (cs.drop 1) else .stop [] cs
    else .next [.text ['&']] none (c :: rest)
  | [] => .stop [] cs

/-- Whether the text begins with the closing tag of an element. -/
def closesRaw (name : String) : List Char → Bool
  | '<' :: '/' :: cs => match plainClosing? cs with
    | some (found, _) => Text.lower (String.ofList found) = name
    | none => false
  | _ => false

/-- The text before the closing tag of an element, and the rest from that tag on. -/
def cutRaw? (name : String) : List Char → Option (List Char × List Char)
  | [] => none
  | c :: cs =>
    if closesRaw name (c :: cs) then some ([], c :: cs)
    else (cutRaw? name cs).map fun (content, rest) => (c :: content, rest)

/-- One step, inside a raw element or not. -/
def step (final : Bool) (raw : Option String) (cs : List Char) : Except Fault Step :=
  match raw with
  | some name => match cutRaw? name cs with
    | none => .ok (.stop [] [])
    | some ([], rest) => atAngle final rest
    | some (content, rest) => .ok (.next [.text content] raw rest)
  | none =>
    match cs.takeWhile (fun c => c ≠ '<' && c ≠ '&') with
    | [] => match cs with
      | '<' :: _ => atAngle final cs
      | _ => .ok (atAmpersand final cs)
    | content => .ok (.next [.text content] none (cs.drop content.length))

/-- One pass: the tokens and the rest that is left for the next one. -/
def pass (final : Bool) (raw : Option String) (cs : List Char) :
    Except Fault (List Token × Option String × List Char) := do
  if cs.isEmpty then return ([], raw, [])
  match ← step final raw cs with
  | .stop tokens rest => return (tokens, raw, rest)
  | .next tokens raw rest =>
    if rest.length < cs.length then
      let (more, raw, rest) ← pass final raw rest
      return (tokens ++ more, raw, rest)
    else return (tokens, raw, rest)
  termination_by cs.length

/-- The tokens of a text. What the last pass leaves is text. -/
def scan (cs : List Char) : Except Fault (List Token) := do
  let (first, raw, rest) ← pass false none cs
  let (second, _, left) ← pass true raw rest
  return first ++ second ++ (if left.isEmpty then [] else [.text left])

end Token

end Lockable.Markup
