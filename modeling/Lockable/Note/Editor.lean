import Lockable.Keyed
import Lockable.Note.Form

/-!
# The note editor

Notes are edited in place: asking for the form of a resource starts a *task* that fetches it and
shows it in the row's container. **The latest request for a name wins**: it cancels the one before,
and a task that was cancelled shows nothing any more.

Tasks take turns. What an operation starts waits in `jobs` until its turn comes, so that a task can
be cancelled before it ever runs, while it waits for the server, or between the server's answer and
its own next turn.

* `Editor.edit`, `Editor.cancel`, `Editor.answer` are what may happen to an editor.
* `Editor.turn` gives the next job its turn; `Editor.settle` does so until none waits. What a task
  does with the server's answer is `Editor.digest`.
* `Editor.log` is all that an editor ever did, in order.
-/

namespace Lockable.Note

/-- What is shown in a container. -/
inductive Display where
  | loading
  | form (form : Form)
  /-- The first field for text has got the focus, or there was none. -/
  | focus (found : Bool)
  deriving Repr

/-- Something that an editor did. -/
inductive Happening where
  | shown (container : String) (what : Display)
  | fetched (name : String)
  | ran (name source : String)
  | bound (binding : Binding)
  deriving Repr

/-- What the server answers to a request for a form. -/
inductive Answer where
  | markup (text : String)
  | failed (cause : Failure)
  deriving Repr

/-- How a task ends. -/
inductive Outcome where
  | form (form : Form)
  /-- The form could not be fetched; the placeholder stays. -/
  | unavailable
  | cancelled
  | failed (cause : Failure)
  deriving Repr

/-- How far a task has come. -/
inductive Phase where
  /-- It has had no turn yet. -/
  | created
  /-- It waits for the server. -/
  | fetching
  /-- The server has answered, and the answer waits for the task's turn. -/
  | answered (answer : Answer)
  /-- It is cancelled and ends at its next turn. -/
  | stopping
  | done (outcome : Outcome)
  deriving Repr

/-- Whether the task has ended. -/
def Phase.isDone : Phase → Bool
  | done _ => true
  | _ => false

/-- A request for the form of a resource, to be shown in a container. -/
structure Task where
  name : String
  container : String
  phase : Phase := .created
  deriving Repr

/-- Work that waits for its turn. -/
inductive Job where
  | resume (task : Nat)
  /-- The task has ended and need not be remembered. -/
  | forget (task : Nat)
  deriving DecidableEq, Repr

/-- An editor: the behaviours of its forms, its tasks in the order in which they were made, the
latest task of each name, the fetches in the order in which they began, what waits, and what
happened so far. -/
structure Editor where
  behaviours : List String := []
  tasks : List Task := []
  latest : Keyed String Nat := []
  fetches : List Nat := []
  jobs : List Job := []
  log : List Happening := []
  deriving Repr

namespace Editor

/-! ### Tasks -/

/-- Moves a task on. -/
def move (e : Editor) (id : Nat) (phase : Phase) : Editor :=
  { e with tasks := e.tasks.modify id fun t => { t with phase } }

/-- Adds to what happened. -/
def record (e : Editor) (happenings : List Happening) : Editor :=
  { e with log := e.log ++ happenings }

/-- Adds work at the end of what waits. -/
def wait (e : Editor) (job : Job) : Editor := { e with jobs := e.jobs ++ [job] }

/-- The task of a name that has not ended. -/
def running? (e : Editor) (name : String) : Option Nat :=
  match Keyed.find? name e.latest with
  | none => none
  | some id => match e.tasks[id]? with
    | some t => if t.phase.isDone then none else some id
    | none => none

/-- Whether a request for the form of a name is on its way. -/
def pending (e : Editor) (name : String) : Bool := (e.running? name).isSome

/-- Makes a task end at its next turn, and gives it one if it waits for the server. -/
def stop (e : Editor) (id : Nat) : Editor :=
  match (e.tasks[id]?).map Task.phase with
  | some .fetching => (e.move id .stopping).wait (.resume id)
  | some .created | some (.answered _) => e.move id .stopping
  | _ => e

/-- Cancels the request for the form of a name; tells whether there was one. -/
def cancel (e : Editor) (name : String) : Editor × Bool :=
  let without := { e with latest := Keyed.erase name e.latest }
  match e.running? name with
  | some id => (without.stop id, true)
  | none => (without, false)

/-- Cancels all requests. -/
def cancelAll (e : Editor) : Editor :=
  (e.latest.map (·.1)).foldl (fun e name => (e.cancel name).1) e

/-- Starts loading the form of a name into a container. -/
def edit (e : Editor) (name container : String) : Editor :=
  let e := (e.cancel name).1.record [.shown container .loading]
  let id := e.tasks.length
  let tasks := e.tasks ++ [⟨name, container, .created⟩]
  { e with tasks, latest := Keyed.insert name id e.latest }.wait (.resume id)

/-- The fetches that were made for a name, as tasks. -/
def fetchesOf (e : Editor) (name : String) : List Nat :=
  e.fetches.filter fun id => ((e.tasks[id]?).map Task.name) = some name

/-- Lets the server answer the fetch of a task; tells whether the task still waited for it. -/
def answer (e : Editor) (id : Nat) (a : Answer) : Editor × Bool :=
  match (e.tasks[id]?).map Task.phase with
  | some .fetching => ((e.move id (.answered a)).wait (.resume id), true)
  | _ => (e, false)

/-! ### Turns -/

/-- What a task does with an answer, and how it ends. -/
abbrev Reaction : Type := Task → Answer → List Happening × Outcome

/-- Digests an answer. A failure of the server leaves the placeholder in place; a form is shown, its
scripts are run, the behaviours are bound and its first field for text gets the focus. -/
def digest (behaviours : List String) : Reaction
  | _, .failed cause => ([], if cause.isIntegration then .unavailable else .failed cause)
  | t, .markup text => match Form.parse text with
    | .error cause => ([], .failed cause)
    | .ok form =>
      let (bindings, fault) := form.bind behaviours
      let shown := Happening.shown t.container (.form form) ::
        (form.scripts.map (Happening.ran t.name) ++ bindings.map Happening.bound)
      match fault with
      | some cause => (shown, .failed cause)
      | none => (shown ++ [.shown t.container (.focus form.first?.isSome)], .form form)

/-- Ends a task. -/
def finish (e : Editor) (id : Nat) (outcome : Outcome) : Editor :=
  (e.move id (.done outcome)).wait (.forget id)

/-- Does with an answer what `react` says, and ends. -/
def conclude (e : Editor) (react : Reaction) (id : Nat) (t : Task) (a : Answer) : Editor :=
  let (happenings, outcome) := react t a
  (e.record happenings).finish id outcome

/-- Gives a task its turn, `react` being what it does with an answer. A task that asks the server
waits for it, unless the answer is there at once. -/
def resumeWith (e : Editor) (react : Reaction) (atOnce : Option Answer) (id : Nat) : Editor :=
  match e.tasks[id]? with
  | none => e
  | some t => match t.phase with
    | .created =>
      let e := { e.move id .fetching with fetches := e.fetches ++ [id] }.record [.fetched t.name]
      match atOnce with
      | none => e
      | some a => e.conclude react id t a
    | .answered a => e.conclude react id t a
    | .stopping => e.finish id .cancelled
    | .fetching | .done _ => e

/-- Forgets a task that has ended, unless a later one has taken its place. -/
def forget (e : Editor) (id : Nat) : Editor :=
  match e.tasks[id]? with
  | none => e
  | some t =>
    if Keyed.find? t.name e.latest = some id then { e with latest := Keyed.erase t.name e.latest }
    else e

/-- Gives the next job its turn. -/
def turnWith (e : Editor) (react : Reaction) (atOnce : Option Answer) : Editor :=
  match e.jobs with
  | [] => e
  | .resume id :: rest => { e with jobs := rest }.resumeWith react atOnce id
  | .forget id :: rest => { e with jobs := rest }.forget id

/-- Gives the next job its turn; the server does not answer at once, and a form is digested. -/
def turn (e : Editor) : Editor := e.turnWith (digest e.behaviours) none

/-- Takes a number of turns. -/
def turns : Nat → Editor → Editor
  | 0, e => e
  | n + 1, e => turns n e.turn

/-- Takes turns until nothing waits: a job leaves at most one other behind. -/
def settle (e : Editor) : Editor := turns (2 * e.jobs.length) e

end Editor

end Lockable.Note
