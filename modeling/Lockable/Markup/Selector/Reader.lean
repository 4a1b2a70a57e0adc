import Lockable.Failure
import Lockable.Markup.Selector.Lexeme

/-!
# Reading selectors

A selector text as a condition, or why it is none. Conditions that hold of no element of a document
at rest, as being hovered over, are read and never met.

* `Selector.read` reads a text.
* `SelectorFault.message` tells what is wrong, where, and shows the place in the text.
-/

namespace Lockable.Markup

/-- What is wrong with a selector text. -/
inductive SelectorFault where
  /-- These words, about this position. -/
  | malformed (words : String) (position : Nat)
  /-- A kind of selector that is not supported. -/
  | unsupported (words : String)
  deriving DecidableEq, Repr

namespace SelectorFault

/-- The lines of a text, each with the position where it begins and where the next one does. -/
def lines (start : Nat) : List Char → List (List Char × Nat × Nat)
  | [] => [([], start, start)]
  | '\r' :: '\n' :: rest => ([], start, start + 2) :: lines (start + 2) rest
  | c :: rest =>
    if c = '\n' || c = '\r' then ([], start, start + 1) :: lines (start + 1) rest
    else match lines (start + 1) rest with
      | (line, _, next) :: more => (c :: line, start, next) :: more
      | [] => [([c], start, start + 1)]

/-- A line with a mark under a column. -/
def marked (indent line : String) (column : Nat) : String :=
  indent ++ line ++ "\n" ++ String.ofList (List.replicate column ' ') ++ "^"

/-- The text with a mark under a position, and the number of its line. -/
def shown (text : List Char) (position : Nat) : String × Nat :=
  match lines 0 text with
  | [(line, _, _)] => (marked "" (String.ofList line) position, 1)
  | all =>
    let isThere (start next : Nat) : Bool := start ≤ position && position < next
    let rows := all.map fun (line, start, next) =>
      if isThere start next then marked "--> " (String.ofList line) (position - start + 4)
      else "    " ++ String.ofList line
    let index := all.findIdx? fun (_, start, next) => isThere start next
    ("\n".intercalate rows, index.getD 0 + 1)

/-- The words for a fault in a selector text. -/
def message (text : String) : SelectorFault → String
  | malformed words position =>
    let (context, line) := shown text.toList position
    s!"{words}\n  line {line}:\n{context}"
  | unsupported words => words

end SelectorFault

namespace Selector

/-! ### Conditions with a name -/

/-- Elements of these names. -/
def ofNames (names : List String) : Selector := any (names.map named)

/-- An attribute has this value, in any letter case for the type. -/
def valued (key value : String) : Selector := compared key .equals value (key = "type")

/-- An input that is not hidden, or another control that takes part in a form. -/
def controls (more : List String) : Selector :=
  any (all [named "input", not (valued "type" "hidden")] ::
    (["button", "select", "textarea", "fieldset"] ++ more).map named)

/-- A control that is disabled by itself or by what it stands in. -/
def disabled : Selector :=
  let closed := all [named "fieldset", carries "disabled"]
  any [all [controls ["optgroup", "option"], carries "disabled"],
    all [named "option", under .child (all [named "optgroup", carries "disabled"])],
    all [controls [], under .child closed],
    all [controls [], under .descendant
      (all [not (all [named "legend", position 0 1 true false anything]), under .child closed])]]

/-- A control whose text can be edited. -/
def editable : Selector :=
  let types := ["", "date", "datetime-local", "email", "month", "number", "password", "search",
    "tel", "text", "time", "url", "week"]
  let typed := any (not (carries "type") :: types.map (valued "type"))
  any [all [any [named "textarea", all [named "input", typed]],
      not (any [carries "readonly", disabled])],
    any [valued "contenteditable" "", compared "contenteditable" .equals "true" true]]

/-- A field that shows its placeholder. -/
def placeholder : Selector :=
  let given := all [carries "placeholder", not (valued "placeholder" "")]
  let types := ["", "text", "search", "url", "tel", "email", "password", "number"]
  any [all [named "input", any (not (carries "type") :: types.map (valued "type")), given,
      any [not (carries "value"), valued "value" ""]],
    all [named "textarea", given, empty]]

/-- The position counted from the start, or from the end. -/
def isFirst (sameName fromEnd : Bool) : Selector := position 0 1 sameName fromEnd anything

/-- The conditions that have a name and no argument. -/
def ofName? (name : String) : Option Selector :=
  match name with
  | "root" => some root
  | "scope" => some scope
  | "empty" => some empty
  | "defined" => some defined
  | "link" | "any-link" => some (all [ofNames ["a", "area"], carries "href"])
  | "checked" | "default" => some (any [
      all [named "input", any [valued "type" "checkbox", valued "type" "radio"], carries "checked"],
      all [named "option", carries "selected"]])
  | "disabled" => some disabled
  | "enabled" => some (all [controls ["optgroup", "option"], not disabled])
  | "required" => some (all [ofNames ["input", "select", "textarea"], carries "required"])
  | "optional" => some (all [ofNames ["input", "select", "textarea"], not (carries "required")])
  | "read-write" => some editable
  | "read-only" => some (not editable)
  | "placeholder-shown" => some placeholder
  | "open" => some (all [ofNames ["details", "dialog"], carries "open"])
  | "muted" => some (all [ofNames ["video", "audio"], carries "muted"])
  | "first-child" => some (isFirst false false)
  | "last-child" => some (isFirst false true)
  | "first-of-type" => some (isFirst true false)
  | "last-of-type" => some (isFirst true true)
  | "only-child" => some (all [isFirst false false, isFirst false true])
  | "only-of-type" => some (all [isFirst true false, isFirst true true])
  | "indeterminate" | "in-range" | "out-of-range" => some nothing
  | _ => none

/-- The conditions without an argument that no element meets. -/
def isNeverMet (name : String) : Bool :=
  ["active", "autofill", "buffering", "current", "focus", "focus-visible", "focus-within",
    "fullscreen", "future", "host", "hover", "local-link", "past", "paused", "picture-in-picture",
    "playing", "popover-open", "seeking", "stalled", "target", "target-within", "user-invalid",
    "visited", "volume-locked"].contains name

/-- The conditions that take selectors. -/
def takesSelectors (name : String) : Bool :=
  ["contains", "-soup-contains", "-soup-contains-own", "has", "is", "matches", "not",
    "where"].contains name

/-- The conditions that take selectors and that no element meets. -/
def takesInVain (name : String) : Bool := ["current", "host", "host-context"].contains name

/-- Whether a condition of this name is known in some form. -/
def isKnown (name : String) : Bool :=
  (ofName? name).isSome || isNeverMet name || takesSelectors name || takesInVain name
    || ["dir", "lang", "nth-child", "nth-last-child", "nth-last-of-type",
      "nth-of-type"].contains name

/-! ### Reading -/

/-- Where a list of selectors stands. -/
structure Setting where
  /-- In the parentheses of a condition. -/
  inner : Bool := false
  /-- An empty selector is allowed, and never met. -/
  forgiving : Bool := false
  /-- The selectors tell where other elements stand as seen from this one. -/
  relative : Bool := false

/-- A list of selectors that is being read. -/
structure Draft where
  /-- The conditions of the selector so far, the last first. -/
  parts : List Selector := []
  /-- Whether the selector has any condition yet. -/
  begun : Bool := false
  /-- What is known about the elements in front of the last combinator. -/
  relation : Option Selector := none
  /-- In a relative list, the combinators and conditions so far, the last first. -/
  chain : List (Combinator × Selector) := []
  /-- In a relative list, the combinator in front of the selector. -/
  lead : Combinator := .descendant
  /-- The selectors of the list that are complete, the last first. -/
  choices : List Selector := []

/-- The combinator of a mark. -/
def combinatorOf (mark : Char) : Combinator :=
  match mark with
  | '>' => .child
  | '~' => .later
  | '+' => .next
  | _ => .descendant

namespace Draft

/-- Adds a condition. -/
def add (d : Draft) (condition : Selector) : Draft :=
  { d with parts := condition :: d.parts, begun := true }

/-- The selector so far as a condition. -/
def here (d : Draft) : Selector := all (d.parts.reverse ++ d.relation.toList)

/-- The chain as a condition: each element stands so to the one before. -/
def chained (d : Draft) : Selector :=
  d.chain.foldl (fun inner (how, condition) =>
    related how (match inner with
      | anything => condition
      | inner => all [condition, inner])) anything

/-- Ends the selector and begins the next one. -/
def endChoice (d : Draft) (choice : Selector) : Draft :=
  { choices := choice :: d.choices }

end Draft

/-- Reads a combinator in an ordinary list. -/
def addCombinator (setting : Setting) (index : Nat) (mark : Char) (d : Draft) :
    Except SelectorFault Draft :=
  if !d.begun then
    if setting.forgiving && mark = ',' then .ok (d.endChoice nothing)
    else .error (.malformed
      s!"The combinator '{mark}' at position {index}, must have a selector before it" index)
  else if mark = ',' then .ok (d.endChoice d.here)
  else .ok { choices := d.choices, relation := some (under (combinatorOf mark) d.here) }

/-- Reads a combinator in a relative list. -/
def addLead (index : Nat) (mark : Char) (d : Draft) : Except SelectorFault Draft :=
  let link := (d.lead, all d.parts.reverse)
  if mark = ',' then
    let d := { d with chain := link :: d.chain }
    .ok (d.endChoice d.chained)
  else if d.begun then
    .ok { choices := d.choices, chain := link :: d.chain, lead := combinatorOf mark }
  else if d.lead != Combinator.descendant then
    .error (.malformed s!"The multiple combinators at position {index}" index)
  else .ok { choices := d.choices, chain := d.chain, lead := combinatorOf mark }

/-- Ends a list of selectors at a position. -/
def finish (setting : Setting) (index : Nat) (d : Draft) : Except SelectorFault Selector :=
  if d.begun then
    if setting.relative then
      let d := { d with chain := (d.lead, all d.parts.reverse) :: d.chain }
      .ok (any (d.chained :: d.choices).reverse)
    else .ok (any (d.here :: d.choices).reverse)
  else if setting.forgiving && (d.choices.isEmpty || d.relation.isNone) then
    .ok (any (nothing :: d.choices).reverse)
  else .error (.malformed s!"Expected a selector at position {index}" index)

/-- The condition of a name and its selectors. -/
def applied (name : String) (inner : Selector) : Selector :=
  if name = "not" then not inner else inner

/-- The setting of the selectors that a condition takes. -/
def settingOf (name : String) : Setting :=
  { inner := true, forgiving := name = "is" || name = "where", relative := name = "has" }

/-- Reads a list of selectors from a position on, to its end or to the parenthesis that closes it,
and gives the lexemes after it. The count bounds the number of lexemes. -/
def readList (setting : Setting) :
    Nat → Nat → Draft → List Lexeme.Located → Except SelectorFault (Selector × List Lexeme.Located)
  | 0, index, _, _ => .error (.malformed s!"Expected a selector at position {index}" index)
  | count + 1, index, d, lexemes => do
    match lexemes with
    | [] =>
      if setting.inner then
        throw (.malformed s!"Unclosed pseudo-class at position {index}" index)
      return (← finish setting index d, [])
    | ⟨lexeme, start, stop⟩ :: rest =>
      match lexeme with
      | .malformed words => throw (.malformed words start)
      | .atRule => throw (.unsupported s!"At-rules found at position {start}")
      | .pseudoElement => throw (.unsupported s!"Pseudo-element found at position {start}")
      | .customPseudo name =>
        throw (.malformed s!"Undefined custom selector ':{name}' found at position {stop}" stop)
      | .ampersand => readList setting count stop (d.add scope) rest
      | .mentions own texts => readList setting count stop (d.add (mentions own texts)) rest
      | .unmet => readList setting count stop (d.add nothing) rest
      | .condition selector => readList setting count stop (d.add selector) rest
      | .tag space name =>
        if d.begun then
          throw (.malformed s!"Tag name found at position {start} instead of at the start" start)
        let found := if name = "*" then anything else named name
        let known := space.isNone || space = some "*"
        readList setting count stop (d.add (if known then found else nothing)) rest
      | .position step offset sameName fromEnd among =>
        if among then
          let (inner, rest) ← readList { inner := true } count stop {} rest
          readList setting count stop (d.add (position step offset sameName fromEnd inner)) rest
        else
          readList setting count stop (d.add (position step offset sameName fromEnd anything)) rest
      | .closing =>
        if !d.begun && !setting.forgiving then
          throw (.malformed s!"Expected a selector at position {start}" start)
        if !setting.inner then
          throw (.malformed s!"Unmatched pseudo-class close at position {start}" start)
        return (← finish setting index d, rest)
      | .combinator mark =>
        let d ← if setting.relative then addLead index mark d
          else addCombinator setting index mark d
        readList setting count stop d rest
      | .pseudo name true =>
        if takesSelectors name then
          let (inner, rest) ← readList (settingOf name) count stop {} rest
          readList setting count stop (d.add (applied name inner)) rest
        else if takesInVain name then
          let (_, rest) ← readList { inner := true } count stop {} rest
          readList setting count stop (d.add nothing) rest
        else if isKnown name then
          throw (.malformed s!"Invalid syntax for pseudo class ':{name}'" start)
        else throw (unknownName name start)
      | .pseudo name false =>
        match ofName? name with
        | some condition => readList setting count stop (d.add condition) rest
        | none =>
          if isNeverMet name then readList setting count stop (d.add nothing) rest
          else if isKnown name then
            throw (.malformed s!"Invalid syntax for pseudo class ':{name}'" start)
          else throw (unknownName name start)
where
  /-- The complaint about a condition that does not exist. -/
  unknownName (name : String) (start : Nat) : SelectorFault :=
    .malformed (s!"':{name}' was detected as a pseudo-class and is either unsupported or invalid. "
      ++ "If the syntax was not intended to be recognized as a pseudo-class, please escape the "
      ++ "colon.") start

/-- The condition that a text writes. -/
def read (text : String) : Except SelectorFault Selector := do
  let cs := text.toList.map fun c => if c.toNat = 0 then Char.ofNat 0xFFFD else c
  let lexemes := Lexeme.scan cs
  let (selector, _) ← readList {} (lexemes.length + 1) 0 {} lexemes
  return selector

end Selector

end Lockable.Markup
