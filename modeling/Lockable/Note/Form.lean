import Lockable.Failure
import Lockable.Markup.Selector.Reader

/-!
# Note forms

The form in which the server lets the note of a resource be edited: the fields for text in it and
the scripts that come with it. *Behaviours* are bound to the elements of a form by selectors.

* `Note.Form.parse` reads the markup of a form.
* `Note.Form.bind` binds behaviours; a form that was never read has nothing to bind.
-/

namespace Lockable.Note

open Markup (Place Selector)

/-- A field for text. -/
structure Input where
  name : String
  value : String
  multiline : Bool
  deriving DecidableEq, Repr

/-- A form: its markup, its fields for text and its scripts, and its tree if it was read. -/
structure Form where
  markup : String
  inputs : List Input := []
  scripts : List String := []
  tree : Option (List Markup.Node) := none
  deriving Repr

/-- A behaviour that was bound to an element: the selector that chose it, its name and its
attributes. -/
structure Binding where
  selector : String
  element : String
  attributes : Keyed String String
  deriving DecidableEq, Repr

/-- The field that an element is, if it is one for text. -/
def Input.ofElement? : Place → Option Input
  | .document _ => none
  | .element _ _ name attributes nodes _ =>
    let label := (Keyed.find? "name" attributes).getD ""
    if name = "textarea" then some ⟨label, Markup.Node.textOf name nodes, true⟩
    else if name = "input" && Text.lower ((Keyed.find? "type" attributes).getD "text") = "text" then
      some ⟨label, (Keyed.find? "value" attributes).getD "", false⟩
    else none

/-- The script that an element is, if it is one and not blank. -/
def scriptOf? : Place → Option String
  | .document _ => none
  | .element _ _ name _ nodes _ =>
    let source := Markup.Node.textOf name nodes
    if name = "script" && !(Text.strip source).isEmpty then some source else none

namespace Form

/-- Reads the markup of a form. -/
def parse (markup : String) : Except Failure Form :=
  match Markup.parse markup with
  | .error fault => .error (.rejectedMarkup fault.message)
  | .ok nodes =>
    let elements := (Place.document nodes).descendants
    .ok { markup, inputs := elements.filterMap Input.ofElement?
          scripts := elements.filterMap scriptOf?, tree := some nodes }

/-- The first field for text. -/
def first? (form : Form) : Option Input := form.inputs.head?

/-- The failure that a fault in a selector is. -/
def selectorFailure (selector : String) (fault : Markup.SelectorFault) : Failure :=
  match fault with
  | .malformed .. => .badSelector (fault.message selector)
  | .unsupported words => .unsupportedSelector words

/-- The behaviours that a selector binds in a tree. -/
def bindOne (nodes : List Markup.Node) (selector : String) : Except Failure (List Binding) :=
  match Selector.read selector with
  | .error fault => .error (selectorFailure selector fault)
  | .ok condition =>
    .ok ((condition.select nodes).map fun place => ⟨selector, place.name, place.attributes⟩)

/-- The behaviours that selectors bind in a tree, in the order of the selectors. A selector that
cannot be read ends the binding, and what was bound before it stays bound. -/
def bindAll (nodes : List Markup.Node) : List String → List Binding × Option Failure
  | [] => ([], none)
  | selector :: rest => match bindOne nodes selector with
    | .error e => ([], some e)
    | .ok found =>
      let (more, fault) := bindAll nodes rest
      (found ++ more, fault)

/-- The behaviours that selectors bind in a form. -/
def bind (form : Form) (selectors : List String) : List Binding × Option Failure :=
  match form.tree with
  | none => ([], none)
  | some nodes => bindAll nodes selectors

end Form

end Lockable.Note
