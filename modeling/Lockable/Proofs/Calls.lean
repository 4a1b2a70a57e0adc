import Mathlib.Logic.Basic
import Lockable.Client

/-!
# What a call leaves alone

A call on a client may fail half way, and the client after it is what the call had made of it by
then. `Client.Keeps f` says that a call keeps `f` **however it ends**; it holds of a sequence of
calls if it holds of each. Exchanges with the server concern the wire, the records and the crumb
only, so every call keeps what does not look at these (`Client.Blind`).

Two things are left to be said. Submitting hands one request to the server whatever becomes of it,
and a listing that is got is the last one from then on, while one that is not got leaves no trace.
-/

namespace Lockable

namespace ActionRequest

/-- The request of an action for what is checked, every name once, if anything is. -/
def ofChecked (a : RowAction) (checked : List String) : Option ActionRequest :=
  if h : distinct checked = [] then none else some ⟨a, distinct checked, h⟩

theorem eq_of_mem_ofChecked {a : RowAction} {checked : List String} {r : ActionRequest}
    (h : r ∈ ofChecked a checked) : r.action = a ∧ r.resources = distinct checked := by
  rw [ofChecked] at h
  split at h
  · cases h
  · cases h
    exact ⟨rfl, rfl⟩

/-- A table that is there asks for what is checked in it. -/
theorem ofSelection_checked (a : RowAction) (checked : List String) :
    ofSelection a.capability (some { checked }) = .ok (ofChecked a checked) := by
  rw [ofSelection, RowAction.rowAction?_capability]
  rfl

end ActionRequest

namespace Client

variable {σ α β γ : Type} {c c' : Client σ} {f : Client σ → γ} {transport : Http.Transport σ}

/-! ### Calls one after another -/

@[simp]
theorem call_pure (a : α) (c : Client σ) : c.call (pure a) = (.ok a, c) := rfl

@[simp]
theorem call_throw (e : Failure) (c : Client σ) : c.call (throw e : Call σ α) = (.error e, c) := rfl

@[simp]
theorem call_get (c : Client σ) : c.call (get : Call σ (Client σ)) = (.ok c, c) := rfl

@[simp]
theorem call_set (c c' : Client σ) : c.call (set c' : Call σ PUnit) = (.ok ⟨⟩, c') := rfl

@[simp]
theorem call_modify (g : Client σ → Client σ) (c : Client σ) :
    c.call (modify g : Call σ PUnit) = (.ok ⟨⟩, g c) := rfl

@[simp]
theorem call_liftM (x : Except Failure α) (c : Client σ) :
    c.call (liftM x : Call σ α) = (x, c) := by
  cases x <;> rfl

/-- A call after another starts from what that has made of the client, if it has succeeded. -/
theorem call_bind (x : Call σ α) (g : α → Call σ β) (c : Client σ) :
    c.call (x >>= g) = match c.call x with
      | (.ok a, c') => c'.call (g a)
      | (.error e, c') => (.error e, c') := by
  rw [call, ExceptT.run_bind, StateT.run_bind]
  unfold call
  rcases h : x.run.run c with ⟨e | a, c'⟩
  · rfl
  · rfl

/-- What is only done with the value of a call does not concern the client. -/
theorem snd_call_bind_pure (x : Call σ α) (g : α → β) (c : Client σ) :
    (c.call (x >>= fun a => pure (g a))).2 = (c.call x).2 := by
  rw [call_bind]
  rcases c.call x with ⟨e | a, c'⟩ <;> rfl

theorem call_log (logger : String) (level : Audit.Level) (message : String)
    (attributes : List (String × Json)) (c : Client σ) :
    c.call (log logger level message attributes) =
      (.ok ⟨⟩, { c with
        records := c.records ++ [Audit.Record.plain logger level message attributes] }) := rfl

/-- A new client has submitted nothing and got no listing. -/
theorem empty_of_start {settings : ServerSettings} {server : σ} {reading : Http.Reading}
    (h : start settings server reading = .ok c) : c.submitted = [] ∧ c.listings = [] := by
  rw [start] at h
  split at h
  · cases h
    exact ⟨rfl, rfl⟩
  · cases h

/-- Whether there is a client for an address does not depend on the state of the server. -/
theorem exists_start {settings : ServerSettings} {server : σ} {reading : Http.Reading}
    (h : start settings server reading = .ok c) (server' : σ) :
    ∃ c', start settings server' reading = .ok c' := by
  rw [start] at h ⊢
  split at h
  · exact ⟨_, rfl⟩
  · cases h

/-! ### What is kept -/

/-- The call **keeps** `f` of the client, whether it succeeds or fails. -/
def Keeps (f : Client σ → γ) (x : Call σ α) : Prop := ∀ c, f (c.call x).2 = f c

/-- Nothing that an exchange with the server changes concerns `f`. -/
structure Blind (f : Client σ → γ) : Prop where
  wire : ∀ c w, f { c with wire := w } = f c
  records : ∀ c rs, f { c with records := rs } = f c
  crumb : ∀ c k, f { c with crumb := k } = f c

theorem blind_submitted : Blind fun c : Client σ => c.submitted :=
  ⟨fun _ _ => rfl, fun _ _ => rfl, fun _ _ => rfl⟩

theorem blind_listings : Blind fun c : Client σ => c.listings :=
  ⟨fun _ _ => rfl, fun _ _ => rfl, fun _ _ => rfl⟩

namespace Keeps

protected theorem pure (a : α) : Keeps f (pure a) := fun _ => rfl

protected theorem throw (e : Failure) : Keeps f (throw e : Call σ α) := fun _ => rfl

protected theorem get : Keeps f (get : Call σ (Client σ)) := fun _ => rfl

protected theorem liftM (x : Except Failure α) : Keeps f (liftM x : Call σ α) := fun c => by
  rw [call_liftM]

protected theorem bind {x : Call σ α} {g : α → Call σ β} (hx : Keeps f x)
    (hg : ∀ a, Keeps f (g a)) : Keeps f (x >>= g) := by
  intro c
  have hc := hx c
  rw [call_bind]
  rcases h : c.call x with ⟨e | a, c'⟩
  · rw [h] at hc
    exact hc
  · rw [h] at hc
    exact (hg a c').trans hc

/-- What follows on a call, and keeps `f`, leaves it as the call has left it. -/
theorem snd_call_bind {x : Call σ α} {g : α → Call σ β} (hg : ∀ a, Keeps f (g a)) (c : Client σ) :
    f (c.call (x >>= g)).2 = f (c.call x).2 := by
  rw [call_bind]
  rcases c.call x with ⟨e | a, c'⟩
  · rfl
  · exact hg a c'

protected theorem mapM {g : α → Call σ β} (hg : ∀ a, Keeps f (g a)) (l : List α) :
    Keeps f (l.mapM g) := by
  induction l with
  | nil => exact .pure _
  | cons a rest ih =>
    rw [List.mapM_cons]
    exact (hg a).bind fun _ => ih.bind fun _ => .pure _

end Keeps

/-! ### What reading from the server keeps -/

/-- Sending a request concerns the wire only. -/
theorem keeps_send (hwire : ∀ c w, f { c with wire := w } = f c) (failed : String → Failure)
    (r : Http.Request) : Keeps f (send transport failed r) := by
  intro c
  rw [send, call_bind, call_get]
  dsimp only
  rcases c.wire.exchange transport r with ⟨outcome, wire⟩
  dsimp only
  rw [call_bind, call_set]
  dsimp only
  have hw := hwire c wire
  split <;> exact hw

theorem keeps_fetchNoteForm (hwire : ∀ c w, f { c with wire := w } = f c) (name : String) :
    Keeps f (fetchNoteForm transport name) := by
  refine Keeps.get.bind fun c => (Keeps.liftM _).bind fun u => ?_
  have hread (found : Http.Reply × Url) :
      Keeps f (liftM (formOfReply c.reading name found.1 found.2) : Call σ String) := .liftM _
  dsimp only
  split
  · exact (Keeps.pure _).bind fun u => (keeps_send hwire _ _).bind hread
  · exact (Keeps.throw _).bind fun u => (keeps_send hwire _ _).bind hread

theorem keeps_listResources (hwire : ∀ c w, f { c with wire := w } = f c)
    (hlistings : ∀ c ls, f { c with listings := ls } = f c) (user : Json) :
    Keeps f (listResources transport user) := by
  refine Keeps.get.bind fun c => (Keeps.liftM _).bind fun u => ?_
  refine (keeps_send hwire _ _).bind fun ⟨reply, _⟩ => ?_
  dsimp only
  split
  · split
    · exact .throw _
    · refine (Keeps.liftM _).bind fun entries => ?_
      refine (Keeps.mapM (fun _ => .liftM _) _).bind fun resources => ?_
      exact Keeps.bind (fun c => hlistings c _) fun _ => .pure _
  · exact .throw _

namespace Blind

variable (hf : Blind f)

include hf

protected theorem log (logger : String) (level : Audit.Level) (message : String)
    (attributes : List (String × Json)) : Keeps f (log logger level message attributes) :=
  fun c => hf.records c _

protected theorem send (failed : String → Failure) (r : Http.Request) :
    Keeps f (send transport failed r) :=
  keeps_send hf.wire failed r

protected theorem askCrumb : Keeps f (askCrumb transport) := by
  refine Keeps.get.bind fun c => ?_
  dsimp only
  split
  · exact .pure _
  · refine (Keeps.liftM _).bind fun u => (hf.send _ _).bind fun ⟨reply, _⟩ => ?_
    -- what both branches go on with, whether it was logged that there is no crumb or not
    have hrest : ∀ _ : PUnit, Keeps f (do
        let crumb ← liftM (crumbOfReply reply)
        modify fun c => { c with crumb := some crumb }
        pure crumb : Call σ (Option Crumb)) := fun _ =>
      (Keeps.liftM _).bind fun crumb => Keeps.bind (fun c => hf.crumb c _) fun _ => .pure _
    dsimp only
    split
    · exact (hf.log _ _ _ _).bind hrest
    · exact hrest ⟨⟩

protected theorem post {action path : String} {fields : List (String × Json)}
    {seen : Http.Reply → Call σ Unit} (hseen : ∀ reply, Keeps f (seen reply)) :
    Keeps f (post transport action path fields seen) := by
  refine hf.askCrumb.bind fun crumb => (Keeps.liftM _).bind fun form => ?_
  refine Keeps.get.bind fun c => (Keeps.liftM _).bind fun u => (Keeps.liftM _).bind fun _ => ?_
  exact (hf.send _ _).bind fun ⟨reply, _⟩ => (hseen reply).bind fun _ => .liftM _

protected theorem fetchNoteForm (name : String) : Keeps f (fetchNoteForm transport name) :=
  keeps_fetchNoteForm hf.wire name

protected theorem saveNote (name note : String) : Keeps f (saveNote transport name note) :=
  (hf.post fun _ => .pure _).bind fun _ => hf.log _ _ _ _

end Blind

/-! ### What is submitted -/

/-- A request that is submitted counts as such, whatever becomes of it. -/
theorem submitted_submit (r : ActionRequest) (c : Client σ) :
    (c.call (submit transport r)).2.submitted = c.submitted ++ [r] := by
  rw [submit, call_bind, call_modify]
  exact blind_submitted.post (fun _ => blind_submitted.log _ _ _ _) _

theorem keeps_listings_submit (r : ActionRequest) :
    Keeps (fun c : Client σ => c.listings) (submit transport r) :=
  Keeps.bind (fun _ => rfl) fun _ => blind_listings.post fun _ => blind_listings.log _ _ _ _

/-- A dispatch submits the request for the selection, if there is one, and nothing else. -/
theorem submitted_dispatch {capability : Capability} {source : Option Source}
    {request : Option ActionRequest} (h : ActionRequest.ofSelection capability source = .ok request)
    (c : Client σ) :
    (c.call (dispatch transport capability source)).2.submitted =
      c.submitted ++ request.toList := by
  rw [dispatch, call_bind, call_liftM, h]
  cases request with
  | none => exact (List.append_nil _).symm
  | some r =>
    dsimp only
    rw [call_bind, call_log]
    dsimp only
    rw [snd_call_bind_pure, submitted_submit]
    rfl

theorem keeps_listings_dispatch (capability : Capability) (source : Option Source) :
    Keeps (fun c : Client σ => c.listings) (dispatch transport capability source) := by
  refine (Keeps.liftM _).bind fun request => ?_
  cases request with
  | none => exact (blind_listings.log _ _ _ _).bind fun _ => .pure _
  | some r =>
    exact (blind_listings.log _ _ _ _).bind fun _ =>
      (keeps_listings_submit r).bind fun _ => .pure _

/-! ### What is listed -/

/-- The call counts the listing that it ends with, and none if it fails. -/
def Lists (x : Call σ (List Resource)) : Prop :=
  ∀ c : Client σ, (c.call x).2.listings = c.listings ++ (c.call x).1.toOption.toList

namespace Lists

theorem throw (e : Failure) : Lists (throw e : Call σ (List Resource)) :=
  fun _ => (List.append_nil _).symm

theorem bind {x : Call σ α} {g : α → Call σ (List Resource)}
    (hx : Keeps (fun c : Client σ => c.listings) x) (hg : ∀ a, Lists (g a)) :
    Lists (x >>= g) := by
  intro c
  have hc := hx c
  rw [call_bind]
  rcases h : c.call x with ⟨e | a, c'⟩ <;> rw [h] at hc
  · exact hc.trans (List.append_nil _).symm
  · have hc : c'.listings = c.listings := hc
    exact hc ▸ hg a c'

/-- A listing that is got is counted. -/
theorem counted (listing : List Resource) :
    Lists (do
      modify fun c => { c with listings := c.listings ++ [listing] }
      return listing : Call σ (List Resource)) :=
  fun _ => rfl

end Lists

theorem lists_listResources (user : Json) : Lists (listResources transport user) := by
  refine Lists.bind .get fun c => Lists.bind (.liftM _) fun u => ?_
  refine Lists.bind (blind_listings.send _ _) fun ⟨reply, _⟩ => ?_
  dsimp only
  split
  · split
    · exact .throw _
    · refine Lists.bind (.liftM _) fun entries => ?_
      exact Lists.bind (.mapM (fun _ => .liftM _) _) fun resources => .counted resources
  · exact .throw _

theorem keeps_submitted_listResources (user : Json) :
    Keeps (fun c : Client σ => c.submitted) (listResources transport user) :=
  keeps_listResources (fun _ _ => rfl) (fun _ _ => rfl) user

end Client

end Lockable
