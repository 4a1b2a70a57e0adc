import Lockable.Markup.Tree

/-!
# Selectors

Which elements of a tree are meant: a selector is a **condition on the place** of an element, what
it is called, what it carries, where it stands among its siblings and what is above or below it.

* `Place` is an element with all that surrounds it.
* `Selector.holds` decides a condition, `Selector.select` lists the elements that meet it in the
  order of the text.

The document itself stands above the outermost elements, as an element without attributes whose name
no selector can write.
-/

namespace Lockable.Markup

/-- An element where it stands: its nodes, what stands before it, the nearest first, and after it,
and the place above it. -/
inductive Place where
  | document (nodes : List Node)
  | element (above : Place) (earlier : List Node) (name : String)
      (attributes : Keyed String String) (nodes : List Node) (later : List Node)

namespace Place

/-- The name of the element, in lower case. -/
def name : Place → String
  | document _ => "[document]"
  | element _ _ name _ _ _ => name.map Char.toLower

/-- The attributes of the element. -/
def attributes : Place → Keyed String String
  | document _ => []
  | element _ _ _ attributes _ _ => attributes

/-- The nodes inside the element. -/
def nodes : Place → List Node
  | document nodes => nodes
  | element _ _ _ _ nodes _ => nodes

/-- The place above. -/
def above? : Place → Option Place
  | document _ => none
  | element above .. => some above

/-- The places above, the nearest first. -/
def ancestors : Place → List Place
  | document _ => []
  | element above .. => above :: above.ancestors

/-- The value of an attribute, whatever its letter case. -/
def attribute? (key : String) (place : Place) : Option String :=
  (List.find? (fun e => e.1.map Char.toLower = key.map Char.toLower) place.attributes).map (·.2)

/-- The words of the element's class. -/
def classes (place : Place) : List String :=
  match place.attribute? "class" with
  | some value => Text.words value
  | none => []

/-- The elements among some nodes, each where it stands, `earlier` being in front of them. -/
def among (above : Place) (earlier : List Node) : List Node → List Place
  | [] => []
  | .element name attributes nodes :: later =>
    element above earlier name attributes nodes later ::
      among above (.element name attributes nodes :: earlier) later
  | .text kind content :: later => among above (.text kind content :: earlier) later

/-- The elements right inside the element. -/
def children (place : Place) : List Place := among place [] place.nodes

/-- The siblings after the element. -/
def following : Place → List Place
  | document _ => []
  | element above earlier name attributes nodes later =>
    among above (.element name attributes nodes :: earlier) later

/-- The siblings before the element, the nearest first. -/
def preceding : Place → List Place
  | document _ => []
  | element above earlier _ _ _ _ =>
    ((among above [] (earlier.reverse)).take
      (earlier.filter fun | .element .. => true | .text .. => false).length).reverse

mutual

/-- The element at a node and all elements inside it, in order. -/
def within (above : Place) (earlier later : List Node) : Node → List Place
  | .text .. => []
  | .element name attributes nodes =>
    let here := element above earlier name attributes nodes later
    here :: withinAll here [] nodes

/-- The elements at some nodes and inside them, in order. -/
def withinAll (above : Place) (earlier : List Node) : List Node → List Place
  | [] => []
  | node :: later => within above earlier later node ++ withinAll above (node :: earlier) later

end

/-- All elements inside the element, in order. -/
def descendants (place : Place) : List Place := withinAll place [] place.nodes

/-- Whether the node is a text that is no aside and no character data. -/
def saysText : Node → Option String
  | .text .aside _ => none
  | .text .characterData _ => none
  | .text _ content => some content
  | .element .. => none

/-- All the text inside the element. -/
def wholeText (place : Place) : String :=
  String.join (Node.textsAll (fun kind => kind ≠ .aside && kind ≠ .characterData) place.nodes)

/-- The texts right inside the element. -/
def ownTexts (place : Place) : List String := place.nodes.filterMap saysText

/-- Whether the element holds neither elements nor text other than blanks. -/
def isEmpty (place : Place) : Bool :=
  place.nodes.all fun
    | .element .. => false
    | node => ((saysText node).getD "").toList.all
        fun c => [' ', '\t', '\r', '\n', Char.ofNat 12].contains c

/-- Whether the element is the first of the document and nothing else stands beside it. -/
def isRoot : Place → Bool
  | element (document _) earlier _ _ _ later =>
    (earlier ++ later).all fun
      | .element .. => false
      | .text .characterData _ => false
      | node => (Text.strip ((saysText node).getD "")).isEmpty
  | _ => false

/-- Whether the element is the first of the document. -/
def isFirst : Place → Bool
  | element (document _) earlier _ _ _ _ =>
    earlier.all fun | .element .. => false | .text .. => true
  | _ => false

end Place

/-- How an attribute's value is compared. -/
inductive Comparison where
  | equals
  | startsWith
  | endsWith
  | contains
  | word
  | dashed
  deriving DecidableEq, Repr

/-- Where an element stands as seen from another one. -/
inductive Combinator where
  | descendant
  | child
  | later
  | next
  deriving DecidableEq, Repr

/-- A condition on the place of an element. -/
inductive Selector where
  | anything
  | nothing
  | named (name : String)
  | ident (value : String)
  | classed (word : String)
  | carries (key : String)
  | compared (key : String) (how : Comparison) (value : String) (anyCase : Bool)
  /-- All conditions hold. -/
  | all (parts : List Selector)
  /-- At least one condition holds. -/
  | any (choices : List Selector)
  | not (condition : Selector)
  /-- The place is number `step * k + offset` among its siblings for some `k`. -/
  | position (step offset : Int) (sameName fromEnd : Bool) (among : Selector)
  | empty
  | root
  | scope
  /-- The element is one of the standard or has a name without a dash. -/
  | defined
  | mentions (own : Bool) (texts : List String)
  /-- The element stands so to one for which the condition holds. -/
  | under (how : Combinator) (condition : Selector)
  /-- An element for which the condition holds stands so to this one. -/
  | related (how : Combinator) (condition : Selector)
  deriving Repr

namespace Comparison

/-- Whether a value equals the wanted one, a line break at its end aside. -/
def meets (wanted value : List Char) : Bool := value = wanted || value = wanted ++ ['\n']

/-- Whether a text occurs somewhere in another. -/
def occurs (wanted : List Char) : List Char → Bool
  | [] => wanted.isEmpty
  | c :: cs => wanted.isPrefixOf (c :: cs) || occurs wanted cs

/-- The blanks between the words of a value. -/
def isBreak (c : Char) : Bool := [' ', '\t', '\r', '\n', Char.ofNat 12].contains c

/-- Whether a value compares so with the wanted one. -/
def holds (how : Comparison) (wanted value : List Char) : Bool :=
  match how with
  | equals => meets wanted value
  | startsWith => wanted.isPrefixOf value
  | endsWith => wanted.isSuffixOf value || (wanted ++ ['\n']).isSuffixOf value
  | contains => occurs wanted value
  | word => !wanted.isEmpty && !wanted.any isBreak && (Text.splitOn isBreak value).contains wanted
  | dashed => meets wanted value || (wanted ++ ['-']).isPrefixOf value

end Comparison

namespace Selector

/-- A text for comparison, in lower case where the case does not matter. -/
def folded (anyCase : Bool) (s : String) : List Char :=
  (if anyCase then Text.lower s else s).toList

/-- Whether `index = step * k + offset` for some `k`. -/
def isReached (step offset index : Int) : Bool :=
  if step = 0 then index = offset
  else (index - offset) % step = 0 && 0 ≤ (index - offset) / step

mutual

/-- Whether the condition holds of a place. -/
def holds : Selector → Place → Bool
  | anything, _ => true
  | nothing, _ => false
  | named name, place => place.name = name.map Char.toLower
  | ident value, place => place.attribute? "id" = some value
  | classed word, place => place.classes.contains word
  | carries key, place => (place.attribute? key).isSome
  | compared key how value anyCase, place => match place.attribute? key with
    | some found => how.holds (folded anyCase value) (folded anyCase found)
    | none => false
  | all parts, place => holdsAll parts place
  | any choices, place => holdsAny choices place
  | not condition, place => !holds condition place
  | position step offset sameName fromEnd among, place =>
    let beside := if fromEnd then place.following else place.preceding
    let counted := beside.filter fun other =>
      if sameName then other.name = place.name else holds among other
    (sameName || holds among place) && isReached step offset (counted.length + 1)
  | empty, place => place.isEmpty
  | root, place => place.isRoot
  | scope, place => place.isFirst
  | defined, place => !place.name.contains '-' || place.name.contains ':'
  | mentions own texts, place =>
    if own then
      let said := place.ownTexts.map String.toList
      texts.any fun text => said.any (Comparison.occurs text.toList)
    else
      let said := place.wholeText.toList
      texts.any fun text => Comparison.occurs text.toList said
  | under how condition, place => match how with
    | .descendant => place.ancestors.any (holds condition)
    | .child => (place.above?.map (holds condition)).getD false
    | .later => place.preceding.any (holds condition)
    | .next => (place.preceding.head?.map (holds condition)).getD false
  | related how condition, place => match how with
    | .descendant => place.descendants.any (holds condition)
    | .child => place.children.any (holds condition)
    | .later => place.following.any (holds condition)
    | .next => (place.following.head?.map (holds condition)).getD false

/-- Whether all conditions hold of a place. -/
def holdsAll : List Selector → Place → Bool
  | [], _ => true
  | part :: rest, place => holds part place && holdsAll rest place

/-- Whether some condition holds of a place. -/
def holdsAny : List Selector → Place → Bool
  | [], _ => false
  | choice :: rest, place => holds choice place || holdsAny rest place

end

/-- The elements of a document that meet the condition, in order. -/
def select (selector : Selector) (nodes : List Node) : List Place :=
  (Place.document nodes).descendants.filter selector.holds

end Selector

end Lockable.Markup
