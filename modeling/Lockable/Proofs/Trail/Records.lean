import Lockable.Proofs.Integration
import Lockable.Proofs.Trail.File

/-!
# What a client leaves in the trail

A client leaves five kinds of records (`Client.Entry`). That an action is dispatched is one of them,
with the action and its resources; that it was **answered** another, with the status, but that one
is left for debugging only (`Client.Entry.level_of_status`).

A dispatch leaves these two in turn, the second one exactly if a final answer has come back,
whatever its status (`Client.records_dispatch`). What the crumb takes is between them.
-/

namespace Lockable.Client

open Audit (Record)

variable {σ α β : Type} {transport : Http.Transport σ} {c c' : Client σ} {r : ActionRequest}

/-! ### Kinds of records -/

/-- The record that an action is dispatched. -/
def dispatching (r : ActionRequest) : Record :=
  .plain dispatchLogger Audit.Level.info s!"dispatching {r.action.endpoint}"
    [("action", .text r.action.endpoint), ("resources", .list (r.resources.map .text))]

/-- The record that an action was answered. -/
def answered (r : ActionRequest) (reply : Http.Reply) : Record :=
  .plain logger Audit.Level.debug "action submitted"
    [("action", .text r.action.endpoint), ("path", .text r.path), ("status", .int reply.status)]

/-- The record that there is no crumb. -/
def noCrumb : Record := .plain logger Audit.Level.debug "server issues no crumb" []

/-- The records that a client leaves. -/
inductive Entry : Record → Prop
  | noCrumb : Entry noCrumb
  | nothing (capability : Capability) :
    Entry (.plain dispatchLogger Audit.Level.debug
      s!"nothing selected, {capability.keyword} skipped" [])
  | dispatching (r : ActionRequest) : Entry (dispatching r)
  | answered (r : ActionRequest) (reply : Http.Reply) : Entry (answered r reply)
  | noteSaved (name : String) :
    Entry (.plain logger Audit.Level.info "note saved" [("resource", .text name)])

namespace Entry

variable {x : Record}

theorem heard (h : Entry x) : x.Heard := by
  have hstatus (reply : Http.Reply) : (Json.int reply.status).showable = true := by
    have hshowable : Showable reply.status := showable_of_lt reply.status_lt
    simpa [Json.showable] using hshowable
  cases h <;> refine Audit.Record.heard_plain _ _ (by decide) ⟨rfl, rfl, ?_⟩ <;> simp [hstatus]

/-- A status is told of for debugging only. -/
theorem level_of_status (h : Entry x) {status : Json} (hstatus : x.Carries "status" status) :
    x.level = Audit.Level.debug := by
  obtain ⟨-, hstatus⟩ := Audit.Record.carries_iff.mp hstatus
  cases h with
  | dispatching r => cases hstatus
  | noteSaved name => cases hstatus
  | _ => rfl

end Entry

theorem carries_dispatching (r : ActionRequest) :
    (dispatching r).Carries "action" (.text r.action.endpoint) ∧
      (dispatching r).Carries "resources" (.list (r.resources.map .text)) :=
  ⟨Audit.Record.carries_iff.mpr ⟨by decide, rfl⟩, Audit.Record.carries_iff.mpr ⟨by decide, rfl⟩⟩

theorem carries_answered (r : ActionRequest) (reply : Http.Reply) :
    (answered r reply).Carries "action" (.text r.action.endpoint) ∧
      (answered r reply).Carries "path" (.text r.path) ∧
      (answered r reply).Carries "status" (.int reply.status) :=
  ⟨Audit.Record.carries_iff.mpr ⟨by decide, rfl⟩, Audit.Record.carries_iff.mpr ⟨by decide, rfl⟩,
    Audit.Record.carries_iff.mpr ⟨by decide, rfl⟩⟩

/-! ### What calls leave -/

/-- The call **leaves** only records of this kind, however it ends. -/
def Leaves (P : Record → Prop) (x : Call σ α) : Prop :=
  ∀ c : Client σ, ∃ new, (c.call x).2.records = c.records ++ new ∧ ∀ r ∈ new, P r

namespace Leaves

variable {P Q : Record → Prop}

/-- A call that keeps the records leaves none. -/
theorem of_keeps {x : Call σ α} (h : Keeps (fun c : Client σ => c.records) x) : Leaves P x :=
  fun c => ⟨[], (h c).trans (List.append_nil _).symm, fun _ hr => absurd hr List.not_mem_nil⟩

protected theorem pure (a : α) : Leaves P (pure a : Call σ α) := of_keeps (.pure a)

protected theorem throw (e : Failure) : Leaves P (throw e : Call σ α) := of_keeps (.throw e)

protected theorem get : Leaves P (get : Call σ (Client σ)) := of_keeps .get

protected theorem liftM (x : Except Failure α) : Leaves P (liftM x : Call σ α) :=
  of_keeps (.liftM x)

protected theorem log {logger message : String} {level : Audit.Level}
    {attributes : List (String × Json)} (h : P (.plain logger level message attributes)) :
    Leaves P (log logger level message attributes : Call σ Unit) :=
  fun _ => ⟨[_], rfl, fun _ hr => List.mem_singleton.mp hr ▸ h⟩

protected theorem send (failed : String → Failure) (request : Http.Request) :
    Leaves P (send transport failed request) :=
  of_keeps (keeps_send (fun _ _ => rfl) failed request)

protected theorem bind {x : Call σ α} {g : α → Call σ β} (hx : Leaves P x)
    (hg : ∀ a, Leaves P (g a)) : Leaves P (x >>= g) := by
  intro c
  obtain ⟨new, hnew, hP⟩ := hx c
  rw [call_bind]
  rcases hcall : c.call x with ⟨e | a, c'⟩ <;> rw [hcall] at hnew
  · exact ⟨new, hnew, hP⟩
  · obtain ⟨new', hnew', hP'⟩ := hg a c'
    have hnew : c'.records = c.records ++ new := hnew
    refine ⟨new ++ new', ?_, fun r hr => (List.mem_append.mp hr).elim (hP r) (hP' r)⟩
    dsimp only
    rw [hnew', hnew, List.append_assoc]

theorem mono {x : Call σ α} (hx : Leaves P x) (h : ∀ r, P r → Q r) : Leaves Q x := fun c =>
  (hx c).imp fun _ hnew => ⟨hnew.1, fun r hr => h r (hnew.2 r hr)⟩

end Leaves

/-- A new client has left no record. -/
theorem records_of_start {settings : ServerSettings} {server : σ} {reading : Http.Reading}
    (h : start settings server reading = .ok c) : c.records = [] := by
  rw [start] at h
  split at h
  · cases h
    rfl
  · cases h

/-- Asking for the crumb leaves a record at most of there being none. -/
theorem leaves_askCrumb : Leaves (· = noCrumb) (askCrumb transport) := by
  refine Leaves.get.bind fun c => ?_
  dsimp only
  split
  · exact .pure _
  · refine (Leaves.liftM _).bind fun u => (Leaves.send _ _).bind ?_
    rintro ⟨reply, place⟩
    have hrest : ∀ _ : PUnit, Leaves (· = noCrumb) (do
        let crumb ← liftM (crumbOfReply reply)
        modify fun c => { c with crumb := some crumb }
        pure crumb : Call σ (Option Crumb)) := fun _ =>
      (Leaves.liftM _).bind fun crumb =>
        (Leaves.of_keeps (fun _ => rfl)).bind fun _ => .pure _
    have hlog : Leaves (· = noCrumb)
        (log logger Audit.Level.debug "server issues no crumb" [] : Call σ Unit) :=
      Leaves.log rfl
    dsimp only
    split
    · exact hlog.bind hrest
    · exact hrest ⟨⟩

theorem leaves_post {action path : String} {fields : List (String × Json)}
    {seen : Http.Reply → Call σ Unit} (hseen : ∀ reply, Leaves Entry (seen reply)) :
    Leaves Entry (post transport action path fields seen) := by
  have hcrumb : Leaves Entry (askCrumb transport) :=
    leaves_askCrumb.mono fun x hx => hx ▸ .noCrumb
  refine hcrumb.bind fun crumb => (Leaves.liftM _).bind fun form => ?_
  refine Leaves.get.bind fun c => (Leaves.liftM _).bind fun u => (Leaves.liftM _).bind fun _ => ?_
  exact (Leaves.send _ _).bind fun ⟨reply, _⟩ => (hseen reply).bind fun _ => .liftM _

theorem leaves_dispatch (capability : Capability) (source : Option Source) :
    Leaves Entry (dispatch transport capability source) := by
  refine (Leaves.liftM _).bind fun request => ?_
  cases request with
  | none => exact (Leaves.log (.nothing capability)).bind fun _ => .pure _
  | some r =>
    have hsubmit : Leaves Entry (submit transport r) :=
      (Leaves.of_keeps (fun _ => rfl)).bind fun _ =>
        leaves_post fun reply => Leaves.log (.answered r reply)
    exact (Leaves.log (.dispatching r)).bind fun _ => hsubmit.bind fun _ => .pure _

theorem leaves_saveNote (name note : String) : Leaves Entry (saveNote transport name note) :=
  (leaves_post fun _ => .pure _).bind fun _ => Leaves.log (.noteSaved name)

/-! ### What a dispatch leaves -/

/-- The final answer to an action that the client submits, if one comes back: the crumb was to be
had, and the way to the page of the action leads to an answer. -/
def answer? (transport : Http.Transport σ) (c : Client σ) (r : ActionRequest) :
    Option Http.Reply :=
  (c.crumb.or (inquiry transport c).definitive?).bind fun k =>
    (formRequest? c r.path [] k).bind fun request =>
      ((askedWire transport c).exchange transport request).1.toOption.map Prod.fst

/-- What sending the form of an action leaves: the record of its answer, if there is one. -/
theorem records_sendForm {action path : String} {fields : List (String × Json)}
    {k : Option Crumb} {told : Http.Reply → Record}
    {seen : Http.Reply → Call σ Unit}
    (hseen : ∀ reply (c : Client σ), c.call (seen reply) =
      (.ok ⟨⟩, { c with records := c.records ++ [told reply] })) :
    (c.call (sendForm transport action path fields seen k)).2.records = c.records ++
      ((((formRequest? c path fields k).bind fun request =>
        (c.wire.exchange transport request).1.toOption.map Prod.fst)).map told).toList := by
  rw [sendForm, call_bind, call_liftM, formRequest?]
  rcases addCrumb fields k with e | form
  · exact (List.append_nil _).symm
  · dsimp only
    rw [call_bind, call_get]
    dsimp only
    rw [call_bind, call_liftM]
    rcases c.address (page c.settings path) with e | u
    · exact (List.append_nil _).symm
    · dsimp only
      rw [call_bind, call_liftM]
      rcases checkCrumb k with e | ⟨⟩
      · exact (List.append_nil _).symm
      · dsimp only
        rw [call_bind, call_send, Option.bind_some]
        rcases c.wire.exchange transport (postRequest c.settings u form) with
          ⟨(words | fault) | ⟨reply, place⟩, wire⟩
        · exact (List.append_nil _).symm
        · exact (List.append_nil _).symm
        · dsimp only
          rw [judge, call_bind, hseen]
          dsimp only
          rw [call_liftM]
          rfl

/-- **What submitting an action leaves**: after what the crumb takes, the record of the final
answer, if there is one. -/
theorem records_submit (transport : Http.Transport σ) (c : Client σ) (r : ActionRequest) :
    ∃ asked, (∀ x ∈ asked, x = noCrumb) ∧ (c.call (submit transport r)).2.records =
      c.records ++ asked ++ ((answer? transport c r).map (answered r)).toList := by
  let q : Errand := .submit r
  have hcall : c.call (submit transport r) =
      (q.noted c).call (askCrumb transport >>= q.rest transport) := q.call_call c
  have hk {k : Option Crumb} : ((q.noted c).call (askCrumb transport)).1 = .ok k ↔
      c.crumb.or (inquiry transport c).definitive? = some k := by
    rw [call_askCrumb_ok_iff, q.crumb_noted, q.inquiry_noted]
  have hplace : SamePlace ((q.noted c).call (askCrumb transport)).2 c :=
    (samePlace_askCrumb transport (q.noted c)).trans (q.samePlace_noted c)
  have hwire : ((q.noted c).call (askCrumb transport)).2.wire = askedWire transport c := by
    rw [wire_askCrumb, askedWire_noted]
  have hleaves : Leaves (· = noCrumb) (askCrumb transport) := leaves_askCrumb
  obtain ⟨asked, hrecords, hasked⟩ := hleaves (q.noted c)
  refine ⟨asked, hasked, ?_⟩
  rw [hcall, call_bind, answer?]
  rcases hask : (q.noted c).call (askCrumb transport) with ⟨e | k, c'⟩ <;>
    rw [hask] at hk hplace hwire hrecords
  · -- without a crumb to be had nothing is posted
    have hnone : c.crumb.or (inquiry transport c).definitive? = none := by
      rw [Option.eq_none_iff_forall_ne_some]
      exact fun k h => by cases hk.mpr h
    rw [hnone]
    exact hrecords.trans (List.append_nil _).symm
  · have hrequest : formRequest? c' r.path [] k = formRequest? c r.path [] k := by
      rw [formRequest?, formRequest?, hplace.address_eq, hplace.settings]
    have hwire : c'.wire = askedWire transport c := hwire
    have hrecords : c'.records = c.records ++ asked := hrecords
    rw [hk.mp rfl, Option.bind_some, ← hrequest, ← hwire, ← hrecords]
    exact records_sendForm fun _ _ => rfl

/-- The answer depends on where the client is, on the crumb and on the wire. -/
theorem answer?_congr (hplace : SamePlace c' c) (hcrumb : c'.crumb = c.crumb)
    (hwire : c'.wire = c.wire) : answer? transport c' r = answer? transport c r := by
  have hinquiry : inquiry transport c' = inquiry transport c := by
    rw [inquiry, inquiry, hplace.address_eq, hplace.settings, hwire]
  have hasked : askedWire transport c' = askedWire transport c := by
    rw [askedWire, askedWire, hplace.address_eq, hplace.settings, hcrumb, hwire]
  have hrequest (k : Option Crumb) : formRequest? c' r.path [] k = formRequest? c r.path [] k := by
    rw [formRequest?, formRequest?, hplace.address_eq, hplace.settings]
  simp only [answer?, hcrumb, hinquiry, hasked, hrequest]

/-- **What a dispatch leaves**: that the action is dispatched, then what the crumb takes, and then
that it was answered, if a final answer has come back. -/
theorem records_dispatch {capability : Capability} {source : Option Source}
    (h : ActionRequest.ofSelection capability source = .ok (some r)) (transport : Http.Transport σ)
    (c : Client σ) :
    ∃ asked, (∀ x ∈ asked, x = noCrumb) ∧
      (c.call (dispatch transport capability source)).2.records =
        c.records ++ dispatching r :: asked ++
          ((answer? transport c r).map (answered r)).toList := by
  let c₁ : Client σ := { c with records := c.records ++ [dispatching r] }
  obtain ⟨asked, hasked, hrecords⟩ := records_submit transport c₁ r
  have hcall : (c.call (dispatch transport capability source)).2 =
      (c₁.call (submit transport r)).2 := by
    rw [dispatch, call_bind, call_liftM, h]
    dsimp only
    rw [call_bind, call_log]
    dsimp only
    rw [snd_call_bind_pure]
    rfl
  have hanswer : answer? transport c₁ r = answer? transport c r := answer?_congr ⟨rfl, rfl⟩ rfl rfl
  refine ⟨asked, hasked, ?_⟩
  rw [hcall, hrecords, hanswer, List.append_assoc c.records]
  simp

end Lockable.Client
