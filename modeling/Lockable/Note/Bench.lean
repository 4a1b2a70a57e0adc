import Lockable.Note.Editor

/-!
# Runs of the note editor

One editor, and one step after another. The server answers the fetches in whatever order the steps
say; between two steps the tasks take their turns, unless the step forbids it.
-/

namespace Lockable.Note

/-- What a step does. -/
inductive Step where
  | edit (name label container : String)
  | release (name : String) (index : Int) (answer : Answer)
  | pending (name : String)
  | cancel (name : String)
  | cancelAll
  | save (name note : String)
  | saveFails (words : Option String)
  deriving Repr

/-- What a step answers. -/
inductive Reply where
  | done
  | late
  | flag (value : Bool)
  deriving DecidableEq, Repr

/-- An editor under test: the tasks under their labels, the notes that were saved, and the words
with which the server refuses notes, if it does. -/
structure Bench where
  editor : Editor := {}
  labels : Keyed String Nat := []
  saved : List (String × String) := []
  refusal : Option String := none
  deriving Repr

namespace Bench

/-- The item at a position, counted from the end where it is negative. -/
def itemAt? (items : List Nat) (index : Int) : Option Nat :=
  let index := if index < 0 then index + items.length else index
  if index < 0 then none else items[index.toNat]?

/-- The fetch of a name at a position. -/
def fetchAt (b : Bench) (name : String) (index : Int) : Except Failure Nat :=
  match b.editor.fetchesOf name with
  | [] => .error (.missingMember name)
  | found => match itemAt? found index with
    | some id => .ok id
    | none => .error (.outOfRange "list")

/-- One step, before the tasks take their turns. -/
def step (b : Bench) : Step → Bench × Except Failure Reply
  | .edit name label container =>
    ({ b with editor := b.editor.edit name container
              labels := Keyed.insert label b.editor.tasks.length b.labels }, .ok .done)
  | .release name index answer => match b.fetchAt name index with
    | .error e => (b, .error e)
    | .ok id =>
      let (editor, inTime) := b.editor.answer id answer
      ({ b with editor }, .ok (if inTime then .done else .late))
  | .pending name => (b, .ok (.flag (b.editor.pending name)))
  | .cancel name =>
    let (editor, found) := b.editor.cancel name
    ({ b with editor }, .ok (.flag found))
  | .cancelAll => ({ b with editor := b.editor.cancelAll }, .ok .done)
  | .save name note => match b.refusal with
    | some words => (b, .error (.submission "saveNote" words (some 500)))
    | none => ({ b with saved := b.saved ++ [(name, note)] }, .ok .done)
  | .saveFails words => ({ b with refusal := words }, .ok .done)

/-- The bench and the reply after each step; a step may forbid that the tasks take their turns. -/
def run : Bench → List (Step × Bool) → List (Bench × Except Failure Reply)
  | _, [] => []
  | b, (s, settles) :: rest =>
    let (b, reply) := b.step s
    let b := if settles then { b with editor := b.editor.settle } else b
    (b, reply) :: run b rest

end Bench

end Lockable.Note
