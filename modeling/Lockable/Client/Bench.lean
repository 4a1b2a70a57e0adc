import Lockable.Client

/-!
# Runs of the client

One client, and one call after another. A call that fails does not stop the run; what it has sent
by then is part of its outcome.
-/

namespace Lockable.Client

/-- One call. -/
inductive Step where
  | crumb
  | submit (action : Json) (resources : List String)
  | noteForm (name : String)
  | saveNote (name note : String)
  | list (user : Json)
  | dispatch (action : Json) (resources : List String)

/-- What a call answers. -/
inductive Answer where
  | crumb (c : Option Crumb)
  | done
  | text (s : String)
  | resources (rs : List Resource)
  | path (p : Option String)

variable {σ : Type}

/-- One step as a call. -/
def step (transport : Http.Transport σ) : Step → Call σ Answer
  | .crumb => return .crumb (← askCrumb transport)
  | .submit action resources => do
    let capability ← Capability.read action
    let request ← ActionRequest.make capability resources
    submit transport request
    return .done
  | .noteForm name => return .text (← fetchNoteForm transport name)
  | .saveNote name note => do
    saveNote transport name note
    return .done
  | .list user => return .resources (← listResources transport user)
  | .dispatch action resources => do
    let capability ← Capability.read action
    let request ← dispatch transport capability (some { checked := resources })
    return .path (request.map ActionRequest.path)

/-- The outcomes of a run and what was sent for each. -/
def run (transport : Http.Transport σ) :
    Client σ → List Step → List (Except Failure Answer × List Http.Request)
  | _, [] => []
  | c, s :: rest =>
    let fresh := { c with wire := { c.wire with sent := [] } }
    let (outcome, after) := fresh.call (step transport s)
    (outcome, after.wire.sent) :: run transport after rest

end Lockable.Client
