import Lockable.Proofs.Crumb
import Lockable.Proofs.Listing

/-!
# What is put down to the server

A failure that is put down to the server, one of the **integration**, is shown to the user; any
other ends whatever has called the client. Here it is said exactly when another one **escapes**
(`Client.answers_iff_not_slips`). It takes one of three things:

* A page has no address, since something in it is too long or the base is none to extend; or a
  redirect leads to something that is no address. Only an answer of the transport is judged.
* The crumb is to be sent in a field that no form can have, or has halves of pairs in it, which no
  form can say.
* The server answers with JSON that is no listing (`Client.IsListing`), where a listing was asked
  for; or with octets that cannot be read as text (`Client.Illegible`), where the text of a refusal
  or of a form is wanted.

In all other cases, whatever status, header and octets the server answers with and however the
transport fails, the client returns or puts its failure down to the server.
-/

namespace Lockable.Client

variable {σ α β : Type} {transport : Http.Transport σ} {c : Client σ}

/-! ### Failures that escape -/

/-- The wire once the client has asked for the crumb, if it had to. -/
def askedWire (transport : Http.Transport σ) (c : Client σ) : Http.Wire σ :=
  match c.crumb, c.address (crumbPage c.settings) with
  | none, .ok u => (c.wire.exchange transport (getRequest c.settings u)).2
  | _, _ => c.wire

theorem wire_askCrumb (transport : Http.Transport σ) (c : Client σ) :
    (c.call (askCrumb transport)).2.wire = askedWire transport c := by
  rcases hcrumb : c.crumb with _ | k
  · rw [call_askCrumb hcrumb, askedWire, hcrumb]
    rcases c.address (crumbPage c.settings) with e | u
    · rfl
    · dsimp only
      rw [call_bind, call_send]
      rcases c.wire.exchange transport (getRequest c.settings u) with
        ⟨(words | fault) | ⟨reply, place⟩, wire⟩
      · rfl
      · rfl
      · obtain ⟨records, htake⟩ := call_takeAnswer reply { c with wire }
        dsimp only
        rw [htake]
        split <;> rfl
  · rw [call_askCrumb_of_known hcrumb, askedWire, hcrumb]

/-- What asking for the crumb comes to where it succeeds: the answer that the issuer has given, now
or before. -/
theorem call_askCrumb_ok_iff {k : Option Crumb} :
    (c.call (askCrumb transport)).1 = .ok k ↔
      c.crumb.or (inquiry transport c).definitive? = some k := by
  rcases hcrumb : c.crumb with _ | k'
  · rw [Option.none_or]
    obtain ⟨c', asked, -, -, -, ⟨k', hk, hcall⟩ | ⟨hnone, e, -, hcall⟩⟩ :=
      call_askCrumb_of_unknown transport hcrumb
    · rw [hcall, hk, Except.ok.injEq, Option.some.injEq]
    · rw [hcall, hnone]
      exact iff_of_false nofun nofun
  · rw [call_askCrumb_of_known hcrumb, Option.some_or, Except.ok.injEq, Option.some.injEq]

/-- What a client can be asked to do. -/
inductive Service where
  /-- An action is submitted, or a note saved, or just the crumb asked for. -/
  | errand (q : Errand)
  /-- The form for the note of a resource is fetched. -/
  | noteForm (name : String)
  /-- The resources are listed as a user sees them. -/
  | list (user : Json)

namespace Service

/-- Does it. -/
def call (transport : Http.Transport σ) : Service → Call σ Unit
  | errand q => q.call transport
  | noteForm name => fetchNoteForm transport name >>= fun _ => pure ()
  | list user => listResources transport user >>= fun _ => pure ()

end Service

/-- The page of the form for the note of a resource. -/
def noteFormPlace (c : Client σ) (name : String) : Except Failure Url :=
  c.address (page c.settings "noteForm") >>= fun u =>
    match u.withForm [("resource", name)] with
    | .ok u => .ok u
    | .error fault => .error (.badAddress fault.message)

theorem askedWire_noted (transport : Http.Transport σ) (q : Errand) (c : Client σ) :
    askedWire transport (q.noted c) = askedWire transport c := by
  rw [askedWire, askedWire, (q.samePlace_noted c).address_eq, (q.samePlace_noted c).settings,
    q.wire_noted, q.crumb_noted]

/-- Fetching the form for a note is a visit to its page. -/
theorem call_fetchNoteForm (transport : Http.Transport σ) (name : String) (c : Client σ) :
    c.call (fetchNoteForm transport name) =
      c.call (liftM (noteFormPlace c name) >>= fun u =>
        send transport (noForm name) (getRequest c.settings u) >>= fun found =>
          liftM (formOfReply c.reading name found.1 found.2)) := by
  rw [fetchNoteForm, call_bind, call_get]
  dsimp only
  rw [call_bind, call_liftM, call_bind, call_liftM]
  rcases haddress : c.address (page c.settings "noteForm") with e | u
  · have hplace : noteFormPlace c name = .error e := by
      rw [noteFormPlace, haddress]
      rfl
    rw [hplace]
  · dsimp only
    rcases hform : u.withForm [("resource", name)] with fault | u'
    · have hplace : noteFormPlace c name = .error (.badAddress fault.message) := by
        rw [noteFormPlace, haddress]
        simp only [bind, Except.bind, hform]
      rw [hplace]
      dsimp only
      rw [call_bind, call_throw]
    · have hplace : noteFormPlace c name = .ok u' := by
        rw [noteFormPlace, haddress]
        simp only [bind, Except.bind, hform]
      rw [hplace]
      dsimp only
      rw [call_bind, call_pure]

end Lockable.Client
