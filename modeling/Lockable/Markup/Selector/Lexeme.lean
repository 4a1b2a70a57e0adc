import Lockable.Markup.Selector
import Lockable.Text.Quoted

/-!
# The words of selectors

A selector text is a row of lexemes, each with the positions where it begins and ends. A lexeme that
cannot be read ends the row with what is wrong about it.

* `Lexeme.scan` is the row of a text.
-/

namespace Lockable.Markup

/-- A piece of a selector text. -/
inductive Lexeme where
  | closing
  | mentions (own : Bool) (texts : List String)
  /-- A position, which goes on with a selector if `among` is set. -/
  | position (step offset : Int) (sameName fromEnd among : Bool)
  /-- A condition on the language or the direction of the text. -/
  | unmet
  | customPseudo (name : String)
  | pseudo (name : String) (opens : Bool)
  | pseudoElement
  | ampersand
  | atRule
  | condition (selector : Selector)
  | tag (space : Option String) (name : String)
  | combinator (mark : Char)
  | malformed (words : String)
  deriving Repr

namespace Lexeme

/-! ### Blanks and names -/

/-- Whether the character is a blank between words. -/
def isSpace : Char → Bool := Comparison.isBreak

/-- What follows a comment. -/
def afterComment? : List Char → Option (List Char)
  | '*' :: '/' :: rest => some rest
  | _ :: rest => afterComment? rest
  | [] => none

/-- What follows one blank or comment. -/
def afterOneSpace? : List Char → Option (List Char)
  | '\r' :: '\n' :: rest => some rest
  | '/' :: '*' :: rest => afterComment? rest
  | c :: rest => if isSpace c then some rest else none
  | [] => none

/-- What follows blanks and comments. -/
def skipSpace (cs : List Char) : List Char :=
  match afterOneSpace? cs with
  | some rest => if rest.length < cs.length then skipSpace rest else rest
  | none => cs
  termination_by cs.length

/-- Whether the character can begin a name. -/
def beginsName (c : Char) : Bool := c.isAlpha || c = '_' || 0xA0 ≤ c.toNat

/-- Whether the character can be part of a name. -/
def isNamePart (c : Char) : Bool := beginsName c || c.isDigit || c = '-'

/-- The character that a code stands for. -/
def coded (code : Nat) : Char :=
  if code = 0 || 0x10FFFF < code then Reference.replacement else Char.ofNat code

/-- What an escape stands for, after its backslash, and the rest. A line break can be escaped in a
string only, where it stands for nothing. -/
def escape? (inString : Bool) (cs : List Char) : Option (List Char × List Char) :=
  match (cs.takeWhile Reference.isHexDigit).take 6 with
  | [] => match cs with
    | [] => some ([Char.ofNat 0xFFFD], [])
    | c :: rest =>
      if c = '\r' || c = '\n' || c = Char.ofNat 12 then
        if inString then (afterOneSpace? cs).map fun rest => ([], rest) else none
      else some ([c], rest)
  | ds =>
    let rest := cs.drop ds.length
    let rest := match rest with
      | c :: _ => if isSpace c then (afterOneSpace? rest).getD rest else rest
      | [] => rest
    some ([coded (Reference.number 16 ds)], rest)

/-- The characters of a name in front of a text, escapes replaced, and the rest. -/
def nameParts (isPart : Char → Bool) (cs : List Char) : List Char × List Char :=
  match cs with
  | [] => ([], [])
  | c :: rest =>
    if c = '\\' then
      match escape? false rest with
      | some (meaning, after) =>
        if after.length ≤ rest.length then
          let (more, rest) := nameParts isNamePart after
          (meaning ++ more, rest)
        else ([], cs)
      | none => ([], cs)
    else if isPart c then
      let (more, rest) := nameParts isNamePart rest
      (c :: more, rest)
    else ([], cs)
  termination_by cs.length

/-- The name in front of a text and the rest. -/
def name? (cs : List Char) : Option (String × List Char) :=
  match cs with
  | '-' :: '-' :: rest =>
    let (more, rest) := nameParts isNamePart rest
    some (String.ofList ('-' :: '-' :: more), rest)
  | '-' :: rest => match nameParts beginsName rest with
    | ([], _) => none
    | (found, rest) => some (String.ofList ('-' :: found), rest)
  | _ => match nameParts beginsName cs with
    | ([], _) => none
    | (found, rest) => some (String.ofList found, rest)

/-- The text of a string up to its quote, and the rest. -/
def stringBody? (quote : Char) (cs : List Char) : Option (List Char × List Char) :=
  match cs with
  | [] => none
  | c :: rest =>
    if c = quote then some ([], rest)
    else if c = '\\' then
      match escape? true rest with
      | some (meaning, after) =>
        if after.length ≤ rest.length then
          (stringBody? quote after).map fun (more, rest) => (meaning ++ more, rest)
        else none
      | none => none
    else if c = '\r' || c = '\n' || c = Char.ofNat 12 then none
    else (stringBody? quote rest).map fun (more, rest) => (c :: more, rest)
  termination_by cs.length

/-- The string or name in front of a text and the rest. -/
def value? : List Char → Option (String × List Char)
  | '"' :: cs => (stringBody? '"' cs).map fun (found, rest) => (String.ofList found, rest)
  | '\'' :: cs => (stringBody? '\'' cs).map fun (found, rest) => (String.ofList found, rest)
  | cs => name? cs

/-! ### Arguments -/

/-- What follows the closing parenthesis. -/
def afterClosing? (cs : List Char) : Option (List Char) :=
  match skipSpace cs with
  | ')' :: rest => some rest
  | _ => none

/-- The values between commas up to the closing parenthesis, and the rest; the first count bounds
their number. -/
def values? : Nat → List Char → Option (List String × List Char)
  | 0, _ => none
  | count + 1, cs => match value? cs with
    | none => none
    | some (found, rest) => match skipSpace rest with
      | ')' :: rest => some ([found], rest)
      | ',' :: rest =>
        (values? count (skipSpace rest)).map fun (more, rest) => (found :: more, rest)
      | _ => none

/-- A sign in front of a text. -/
def sign (cs : List Char) : Int × List Char :=
  match cs with
  | '-' :: rest => (-1, rest)
  | '+' :: rest => (1, rest)
  | _ => (1, cs)

/-- The number of a count with `n`, its offset, and the rest. -/
def offset (cs : List Char) : Int × List Char :=
  match skipSpace cs with
  | c :: rest =>
    if c = '+' || c = '-' then
      let digits := (skipSpace rest).takeWhile (·.isDigit)
      if digits.isEmpty then (0, cs)
      else
        let n : Int := Reference.number 10 digits
        (if c = '-' then -n else n, (skipSpace rest).drop digits.length)
    else (0, cs)
  | [] => (0, cs)

/-- The step and the offset of a position, and the rest. -/
def steps? (cs : List Char) : Option ((Int × Int) × List Char) :=
  let word := String.ofList ((cs.takeWhile (·.isAlpha)).map Char.toLower)
  if word = "even" then some ((2, 0), cs.drop 4)
  else if word = "odd" then some ((2, 1), cs.drop 3)
  else
    let (signed, rest) := sign cs
    let digits := rest.takeWhile (·.isDigit)
    let n : Int := if digits.isEmpty then 1 else Reference.number 10 digits
    match rest.drop digits.length with
    | c :: after =>
      if c = 'n' || c = 'N' then
        let (added, rest) := offset after
        some ((signed * n, added), rest)
      else if digits.isEmpty then none
      else some ((0, signed * n), c :: after)
    | [] => if digits.isEmpty then none else some ((0, signed * n), [])

/-- What follows the word `of` with blanks around it. -/
def afterOf? (cs : List Char) : Option (List Char) :=
  match skipSpace cs with
  | o :: f :: rest =>
    if (o = 'o' || o = 'O') && (f = 'f' || f = 'F') && (skipSpace cs).length < cs.length
      && (skipSpace rest).length < rest.length then some (skipSpace rest) else none
  | _ => none

/-- The lexeme of a condition with arguments of its own form, and the rest. -/
def special? (name : String) (cs : List Char) : Option (Lexeme × List Char) :=
  if ["contains", "-soup-contains", "-soup-contains-own"].contains name then
    (values? cs.length cs).map fun (texts, rest) =>
      (mentions (name = "-soup-contains-own") texts, rest)
  else if name = "nth-child" || name = "nth-last-child" then
    match steps? cs with
    | none => none
    | some ((step, offset), rest) =>
      let fromEnd := name = "nth-last-child"
      match afterClosing? rest with
      | some rest => some (position step offset false fromEnd false, rest)
      | none => (afterOf? rest).map fun rest => (position step offset false fromEnd true, rest)
  else if name = "nth-of-type" || name = "nth-last-of-type" then
    match steps? cs with
    | none => none
    | some ((step, offset), rest) =>
      (afterClosing? rest).map fun rest =>
        (position step offset true (name = "nth-last-of-type") false, rest)
  else if name = "lang" then (values? cs.length cs).map fun (_, rest) => (unmet, rest)
  else if name = "dir" then match name? cs with
    | some (word, rest) =>
      if ["ltr", "rtl"].contains (word.map Char.toLower) then
        (afterClosing? rest).map fun rest => (unmet, rest)
      else none
    | none => none
  else none

/-! ### Attributes -/

/-- The sign of a comparison in front of a text, and the rest. The flag is set where the comparison
must fail. -/
def comparison? : List Char → Option ((Comparison × Bool) × List Char)
  | '=' :: rest => some ((.equals, false), rest)
  | '!' :: '=' :: rest => some ((.equals, true), rest)
  | '~' :: '=' :: rest => some ((.word, false), rest)
  | '^' :: '=' :: rest => some ((.startsWith, false), rest)
  | '|' :: '=' :: rest => some ((.dashed, false), rest)
  | '*' :: '=' :: rest => some ((.contains, false), rest)
  | '$' :: '=' :: rest => some ((.endsWith, false), rest)
  | _ => none

/-- A name after a name space and a bar, where there is one, and the rest. -/
def spacedName? (one : List Char → Option (String × List Char)) (cs : List Char) :
    Option (Option String × String × List Char) :=
  let plain := (one cs).map fun (name, rest) => (none, name, rest)
  let space := match cs with
    | '*' :: rest => ("*", rest)
    | _ => (name? cs).getD ("", cs)
  match space.2 with
  | '|' :: rest => match one rest with
    | some (name, rest) => some (some space.1, name, rest)
    | none => plain
  | _ => plain

/-- What follows the bracket that ends an attribute. -/
def afterBracket? (cs : List Char) : Option (List Char) :=
  match skipSpace cs with
  | ']' :: rest => some rest
  | _ => none

/-- The mark for the letter case, and the rest. -/
def caseMark (cs : List Char) : Option Bool × List Char :=
  match skipSpace cs with
  | c :: rest =>
    if c = 'i' || c = 'I' then (some true, rest)
    else if c = 's' || c = 'S' then (some false, rest)
    else (none, cs)
  | [] => (none, cs)

/-- The condition on an attribute after the opening bracket, and the rest. The type is compared in
any letter case. -/
def attribute? (cs : List Char) : Option (Selector × List Char) :=
  match spacedName? name? (skipSpace cs) with
  | none => none
  | some (_, key, rest) =>
    match comparison? (skipSpace rest) with
    | none => (afterBracket? rest).map fun rest => (Selector.carries key, rest)
    | some ((how, fails), rest) =>
      match value? (skipSpace rest) with
      | none => none
      | some (value, rest) =>
        let (mark, rest) := caseMark rest
        let anyCase := mark.getD (key.map Char.toLower = "type")
        let met := Selector.compared key how value anyCase
        (afterBracket? rest).map fun rest => (if fails then .not met else met, rest)

/-! ### Rows -/

/-- The combinator in front of a text, and the rest. A blank counts only where no other combinator
follows at once. -/
def combinator? (cs : List Char) : Option (Char × List Char) :=
  let isMark (c : Char) : Bool := [',', '+', '>', '~'].contains c
  match cs with
  | [] => none
  | c :: rest =>
    if isMark c then some (c, skipSpace rest)
    else match afterOneSpace? cs with
      | none => none
      | some after =>
        if isSpace c && !(after.head?.map isMark).getD false then some (' ', skipSpace after)
        else if after.length ≤ rest.length then combinator? after else none
  termination_by cs.length

/-- The element's name, or a star for any, in front of a text. -/
def element? : List Char → Option (String × List Char)
  | '*' :: rest => some ("*", rest)
  | cs => name? cs

/-- The lexeme after a colon, and the rest. -/
def colon? (cs : List Char) : Option (Lexeme × List Char) :=
  match cs with
  | ':' :: rest => (name? rest).map fun (_, rest) => match rest with
    | '(' :: rest => (pseudoElement, skipSpace rest)
    | _ => (pseudoElement, rest)
  | _ => match name? cs with
    | none => none
    | some (name, rest) =>
      let name := name.map Char.toLower
      match rest with
      | '(' :: inner => match special? name (skipSpace inner) with
        | some found => some found
        | none =>
          if cs.take 2 = ['-', '-'] then some (customPseudo name, rest)
          else some (pseudo name true, skipSpace inner)
      | _ =>
        if cs.take 2 = ['-', '-'] then some (customPseudo name, rest)
        else some (pseudo name false, rest)

/-- The name or the combinator in front of a text, and the rest. -/
def plain? (cs : List Char) : Option (Lexeme × List Char) :=
  match spacedName? element? cs with
  | some (space, name, rest) => some (tag space name, rest)
  | none => (combinator? cs).map fun (mark, rest) => (combinator mark, rest)

/-- The lexeme in front of a text, and the rest. -/
def one? (cs : List Char) : Option (Lexeme × List Char) :=
  match afterClosing? cs with
  | some rest => some (closing, rest)
  | none =>
    match cs with
    | ':' :: rest => colon? rest
    | '&' :: rest => some (ampersand, rest)
    | '@' :: p :: rest =>
      if p = 'p' || p = 'P' then (name? rest).map fun (_, rest) => (atRule, rest) else none
    | '#' :: rest => (name? rest).map fun (name, rest) => (condition (.ident name), rest)
    | '.' :: rest => (name? rest).map fun (name, rest) => (condition (.classed name), rest)
    | '[' :: rest => (attribute? rest).map fun (found, rest) => (condition found, rest)
    | _ => plain? cs

/-- What is wrong where no lexeme can be read. -/
def complaint (c : Char) (index : Nat) : String :=
  if c = '[' then s!"Malformed attribute selector at position {index}"
  else if c = '.' then s!"Malformed class selector at position {index}"
  else if c = '#' then s!"Malformed id selector at position {index}"
  else if c = ':' then s!"Malformed pseudo-class selector at position {index}"
  else s!"Invalid character {Text.quoted (String.ofList [c])} position {index}"

/-- A lexeme with the positions where it begins and ends. -/
structure Located where
  lexeme : Lexeme
  start : Nat
  stop : Nat
  deriving Repr

/-- The lexemes up to a position, from another one on. -/
def row (limit index : Nat) (cs : List Char) : List Located :=
  if limit ≤ index then []
  else match cs with
    | [] => []
    | c :: tail =>
      match one? cs with
      | none => [⟨malformed (complaint c index), index, index⟩]
      | some (lexeme, rest) =>
        let stop := index + (cs.length - rest.length)
        if rest.length ≤ tail.length then ⟨lexeme, index, stop⟩ :: row limit stop rest
        else [⟨lexeme, index, stop⟩]
  termination_by cs.length
  decreasing_by exact Nat.lt_succ_of_le (by assumption)

/-- How many characters of a text there are in front of the blanks at its end. -/
def blankFrom : List Char → Nat
  | [] => 0
  | c :: cs => if (skipSpace (c :: cs)).isEmpty then 0 else blankFrom cs + 1

/-- The lexemes of a selector text, without the blanks at its ends. -/
def scan (cs : List Char) : List Located :=
  let rest := skipSpace cs
  row (blankFrom cs) (cs.length - rest.length) rest

end Lexeme

end Lockable.Markup
