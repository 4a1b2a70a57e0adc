import Lockable.ActionRequest

/-!
# Runs of the action bar

A `Bench` is an action bar beside a table whose rows are checked by hand and a server that takes or
refuses what is sent to it. `Bench.step` does one thing to it; `Bench.run` does one thing after
another, and a step that fails does not stop the run.
-/

namespace Lockable

/-- How a server refuses every action: its words and the status of its answer. -/
structure Refusal where
  words : String
  status : Option Nat
  deriving DecidableEq, Repr

/-- An action bar, a table that may be attached to it, the note buttons of the rows (shown or not)
and what the server says to an action. -/
structure Bench where
  bar : ActionBar := {}
  table : Source := {}
  attached : Bool := true
  noteButtons : List Bool := []
  refusal : Option Refusal := none

namespace Bench

/-- One thing done to a bench. -/
inductive Step where
  /-- Load permissions into the bar. -/
  | load (raw : Json)
  /-- Load permissions behind the bar's back. -/
  | sessionLoad (raw : Json)
  /-- Drop all permissions behind the bar's back. -/
  | sessionReset
  /-- Check the row of a snapshot. -/
  | check (payload : Json)
  /-- Uncheck the row of a snapshot. -/
  | uncheck (payload : Json)
  /-- Report a row as checked or unchecked, whatever the table says. -/
  | change (payload : Json) (checked : Bool)
  /-- Check exactly these rows without a report. -/
  | select (names : List String)
  /-- Record a snapshot. -/
  | record (payload : Json)
  /-- Drop a snapshot. -/
  | forget (name : String)
  /-- Ask for a snapshot. -/
  | snapshot (name : String)
  /-- Clear the selection. -/
  | clear
  /-- Attach the table or detach it. -/
  | attach (attached : Bool)
  /-- From now on the table fails, or works again. -/
  | tableFails (failure : Option SourceFailure)
  /-- Recompute the bar. -/
  | refresh
  /-- Bind fresh buttons for these capabilities. -/
  | bind (capabilities : List Json)
  /-- Ask for the state of a button. -/
  | state (capability : Json)
  /-- From now on the server refuses actions, or takes them again. -/
  | serverRefuses (refusal : Option Refusal)
  /-- Make the request of an action for the selection. -/
  | build (action : Json)
  /-- Send an action for the selection. -/
  | dispatch (action : Json)

/-- What a step answers when it does not fail. -/
inductive Answer where
  | done
  | snapshot (r : Option Resource)
  | state (s : ButtonState)
  | path (p : Option String)

/-- The table as far as the bar can see it. -/
def source (b : Bench) : Option Source := if b.attached then some b.table else none

/-- The names that are selected now. -/
def selection (b : Bench) : Except Failure (List String) := Source.selection b.source

/-- The snapshots that are selected now. -/
def selected (b : Bench) : Except Failure (List Resource) := b.bar.selectedResources b.source

/-- Takes over the bar that an operation leaves, with its outcome. -/
def settle (b : Bench) (after : ActionBar × Except Failure Unit) : Bench × Except Failure Answer :=
  ({ b with bar := after.1 }, after.2.map fun _ => .done)

/-- Reads a snapshot and goes on with it; a payload that is none leaves the bench alone. -/
def withResource (b : Bench) (payload : Json) (k : Resource → Bench × Except Failure Answer) :
    Bench × Except Failure Answer :=
  match Resource.fromSnapshot payload with
  | .ok r => k r
  | .error e => (b, .error e)

/-- Fresh buttons for some capabilities, one for each. -/
def freshHandles (cs : List Capability) : List (Capability × ButtonHandle) :=
  Keyed.ofEntries (cs.map fun c => (c, {}))

/-- The request of an action for the selection. -/
def request (b : Bench) (action : Json) : Except Failure (Option ActionRequest) := do
  ActionRequest.ofSelection (← Capability.read action) b.source

/-- Sends a request to the server. -/
def send (b : Bench) (r : Option ActionRequest) : Except Failure Answer :=
  match r, b.refusal with
  | some r, some refusal => .error (.submission r.action.endpoint refusal.words refusal.status)
  | r, _ => .ok (.path (r.map ActionRequest.path))

/-- One step: the bench afterwards and the outcome. -/
def step (b : Bench) : Step → Bench × Except Failure Answer
  | .load raw =>
    match b.bar.load raw b.source with
    | ((bar, _), .error e) => ({ b with bar }, .error e)
    | ((bar, source), .ok ()) =>
      ({ b with
          bar
          table := if b.attached then source.getD b.table else b.table
          noteButtons := b.noteButtons.map fun _ => bar.noteVisible }, .ok .done)
  | .sessionLoad raw =>
    match Permissions.derive raw with
    | .ok permissions => ({ b with bar := { b.bar with permissions } }, .ok .done)
    | .error e => (b, .error e)
  | .sessionReset => ({ b with bar := { b.bar with permissions := .none } }, .ok .done)
  | .check payload =>
    b.withResource payload fun r =>
      let b := { b with table := { b.table with checked := b.table.checked ++ [r.name] } }
      b.settle (b.bar.selectionChanged r true b.source)
  | .uncheck payload =>
    b.withResource payload fun r =>
      if r.name ∈ b.table.checked then
        let b := { b with table := { b.table with checked := b.table.checked.erase r.name } }
        b.settle (b.bar.selectionChanged r false b.source)
      else (b, .error .notChecked)
  | .change payload checked =>
    b.withResource payload fun r => b.settle (b.bar.selectionChanged r checked b.source)
  | .select names => ({ b with table := { b.table with checked := names } }, .ok .done)
  | .record payload =>
    b.withResource payload fun r => ({ b with bar := b.bar.record r }, .ok .done)
  | .forget name => ({ b with bar := b.bar.forget name }, .ok .done)
  | .snapshot name => (b, .ok (.snapshot (Snapshots.get? name b.bar.snapshots)))
  | .clear =>
    match Source.cleared b.source with
    | .ok source => ({ b with table := source.getD b.table }, .ok .done)
    | .error e => (b, .error e)
  | .attach attached => ({ b with attached }, .ok .done)
  | .tableFails failure => ({ b with table := { b.table with failure } }, .ok .done)
  | .refresh => b.settle (b.bar.refresh b.source)
  | .bind capabilities =>
    match capabilities.mapM Capability.read with
    | .ok cs => ({ b with bar := b.bar.bind (freshHandles cs) }, .ok .done)
    | .error e => (b, .error e)
  | .state capability => (b, (Capability.read capability).bind b.bar.state |>.map .state)
  | .serverRefuses refusal => ({ b with refusal }, .ok .done)
  | .build action => (b, (b.request action).map fun r => .path (r.map ActionRequest.path))
  | .dispatch action => (b, (b.request action).bind b.send)

/-- The benches and outcomes of a run, one for each step. -/
def run : Bench → List Step → List (Bench × Except Failure Answer)
  | _, [] => []
  | b, s :: rest =>
    let after := b.step s
    after :: run after.1 rest

end Bench

end Lockable
