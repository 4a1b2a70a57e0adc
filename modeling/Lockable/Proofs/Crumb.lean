import Mathlib.Control.Monad.Basic
import Lockable.Proofs.Calls
import Lockable.Proofs.Exchange

/-!
# The crumb

Before it sends a form, the client asks the issuer for the crumb. A **definitive** answer, be it a
crumb or that there is none, is asked for once: from then on every form carries what was answered,
and the issuer is not asked again. An attempt that fails sends no form and is not remembered, so the
next call asks anew (`Client.crumb_protocol`).

An attempt that fails makes the call fail as well. It does so with a failure of the integration,
with one exception: where the way to the issuer leads to something that is no address, the call
fails with a bad address. A redirect of the issuer can do that.
-/

namespace Lockable.Client

open Http (Request Trail Originates)

variable {σ α : Type} {transport : Http.Transport σ} {c c' : Client σ}

/-! ### Errands -/

/-- What a client is asked to do that needs the crumb. -/
inductive Errand where
  | crumb
  | submit (r : ActionRequest)
  | saveNote (name note : String)

namespace Errand

/-- Does it. -/
def call (transport : Http.Transport σ) : Errand → Call σ Unit
  | crumb => askCrumb transport >>= fun _ => pure ()
  | submit r => Client.submit transport r
  | saveNote name note => Client.saveNote transport name note

end Errand

/-! ### Answers of the issuer -/

/-- What a final answer of the issuer means, if it is definitive: a plain 404 that there is no
crumb, and an answer that is no error an object with both members, which are the crumb. -/
def definitive? (r : Http.Reply) : Option (Option Crumb) :=
  if r.status = 404 then some none
  else if 400 ≤ r.status ∧ r.status < 600 then none
  else
    match Json.readOctets r.body with
    | .ok (.object members) =>
      match Keyed.find? "crumbRequestField" members, Keyed.find? "crumb" members with
      | some field, some value => some (some ⟨field, value, crumbFlaw? r.body field value⟩)
      | _, _ => none
    | _ => none

/-- What comes of asking the issuer. -/
inductive Inquiry where
  /-- The way leads to something that is no address. -/
  | astray
  /-- The transport fails. -/
  | broken
  | answered (r : Http.Reply)

/-- What comes of asking the issuer now. -/
def inquiry (transport : Http.Transport σ) (c : Client σ) : Inquiry :=
  match c.address (crumbPage c.settings) with
  | .error _ => .astray
  | .ok u =>
    match (c.wire.exchange transport (getRequest c.settings u)).1 with
    | .error (.transport _) => .broken
    | .error (.address _) => .astray
    | .ok (reply, _) => .answered reply

/-- The definitive answer that asking comes to, if it does. -/
def Inquiry.definitive? : Inquiry → Option (Option Crumb)
  | .answered r => Client.definitive? r
  | _ => none

/-- How a call fails whose attempt to get the crumb fails: with a failure of the integration, unless
it went astray. -/
inductive Foiled : Inquiry → Failure → Prop
  | astray (words : String) : Foiled .astray (.badAddress words)
  | broken (words : String) : Foiled .broken (.integration words)
  | answered (r : Http.Reply) (words : String) : Foiled (.answered r) (.integration words)

theorem crumbMember_eq_ok_iff {key : String} {payload value : Json} :
    crumbMember key payload = .ok value ↔
      ∃ members, payload = .object members ∧ Keyed.find? key members = some value := by
  cases payload with
  | object members =>
    rw [crumbMember]
    rcases h : Keyed.find? key members with _ | found <;> simp [h]
  | _ => simp [crumbMember]

/-- What a crumb is read from, once the body is: its two members, the name of the field first. -/
theorem readCrumb_of_read {octets : List UInt8} {payload : Json}
    (h : Json.readOctets octets = .ok payload) :
    readCrumb octets = (crumbMember "crumbRequestField" payload >>= fun field =>
      crumbMember "crumb" payload >>= fun value =>
        pure ⟨field, value, crumbFlaw? octets field value⟩) := by
  rw [readCrumb, h]
  rfl

/-- A crumb can be read from an object with both members, and from nothing else. -/
theorem readCrumb_eq_ok_iff {octets : List UInt8} {crumb : Crumb} :
    readCrumb octets = .ok crumb ↔
      ∃ members, Json.readOctets octets = .ok (.object members) ∧
        Keyed.find? "crumbRequestField" members = some crumb.field ∧
        Keyed.find? "crumb" members = some crumb.value ∧
        crumb.flaw = crumbFlaw? octets crumb.field crumb.value := by
  rcases hread : Json.readOctets octets with fault | payload
  · refine iff_of_false (fun h => ?_) fun ⟨_, h, _⟩ => nomatch h
    rw [readCrumb, hread] at h
    cases h
  · rw [readCrumb_of_read hread]
    constructor
    · intro h
      obtain ⟨field, hfield, h⟩ := exists_of_bind_eq_ok h
      obtain ⟨value, hvalue, h⟩ := exists_of_bind_eq_ok h
      cases h
      obtain ⟨members, rfl, hfound⟩ := crumbMember_eq_ok_iff.mp hfield
      obtain ⟨_, hsame, hfound'⟩ := crumbMember_eq_ok_iff.mp hvalue
      cases hsame
      exact ⟨members, rfl, hfound, hfound', rfl⟩
    · rintro ⟨members, hpayload, hfield, hvalue, hflaw⟩
      cases hpayload
      rw [crumbMember_eq_ok_iff.mpr ⟨members, rfl, hfield⟩,
        crumbMember_eq_ok_iff.mpr ⟨members, rfl, hvalue⟩]
      exact congrArg (fun flaw => Except.ok (Crumb.mk crumb.field crumb.value flaw)) hflaw.symm

/-- The client takes an answer for what it means, and one that is not definitive for a failure of
the integration. -/
theorem crumbOfReply_eq (r : Http.Reply) :
    (∃ k, definitive? r = some k ∧ crumbOfReply r = .ok k) ∨
    (definitive? r = none ∧ ∃ words, crumbOfReply r = .error (.integration words)) := by
  rw [definitive?, crumbOfReply]
  by_cases hmissing : r.status = 404
  · exact .inl ⟨none, by rw [if_pos hmissing], by rw [if_pos hmissing]⟩
  · rw [if_neg hmissing, if_neg hmissing]
    by_cases herror : 400 ≤ r.status ∧ r.status < 600
    · have hbad : r.isError = true := by simpa [Http.Reply.isError] using herror
      exact .inr ⟨if_pos herror, _, if_pos hbad⟩
    · have hgood : ¬r.isError = true := by simpa [Http.Reply.isError] using herror
      rw [if_neg herror, if_neg hgood]
      rcases hcrumb : readCrumb r.body with words | crumb
      · refine .inr ⟨?_, _, rfl⟩
        split
        · next members hread =>
          split
          · next field value hfield hvalue =>
            have hok : readCrumb r.body = .ok ⟨field, value, crumbFlaw? r.body field value⟩ :=
              readCrumb_eq_ok_iff.mpr ⟨members, hread, hfield, hvalue, rfl⟩
            rw [hcrumb] at hok
            cases hok
          · rfl
        · rfl
      · obtain ⟨members, hread, hfield, hvalue, hflaw⟩ := readCrumb_eq_ok_iff.mp hcrumb
        exact .inl ⟨some crumb, by simp only [hread, hfield, hvalue, ← hflaw], rfl⟩

/-! ### Asking -/

/-- What a call that sends a request comes to. -/
theorem call_send (failed : String → Failure) (r : Request) (c : Client σ) :
    c.call (send transport failed r) =
      (match (c.wire.exchange transport r).1 with
        | .ok found => .ok found
        | .error (.transport words) => .error (failed words)
        | .error (.address fault) => .error (.badAddress fault.message),
      { c with wire := (c.wire.exchange transport r).2 }) := by
  rw [send, call_bind, call_get]
  dsimp only
  rcases c.wire.exchange transport r with ⟨(words | fault) | found, wire⟩ <;> rfl

/-- Once the issuer has answered it is not asked again. -/
theorem call_askCrumb_of_known {k : Option Crumb} (h : c.crumb = some k) :
    c.call (askCrumb transport) = (.ok k, c) := by
  rw [askCrumb, call_bind, call_get]
  dsimp only
  rw [h]
  rfl

/-- The requests that a client sends to ask for the crumb. -/
inductive Asks (c : Client σ) : List Request → Prop
  | nowhere {e : Failure} (h : c.address (crumbPage c.settings) = .error e) : Asks c []
  | trail {u : Url} (h : c.address (crumbPage c.settings) = .ok u) {asked : List Request}
      (htrail : Trail (getRequest c.settings u) asked) : Asks c asked

/-- What the client does with a final answer of the issuer. -/
def takeAnswer (reply : Http.Reply) : Call σ (Option Crumb) := do
  if reply.status = 404 then log logger Audit.Level.debug "server issues no crumb" []
  let crumb ← crumbOfReply reply
  modify fun c => { c with crumb := some crumb }
  return crumb

theorem call_takeAnswer (reply : Http.Reply) (c : Client σ) :
    ∃ records, c.call (takeAnswer reply) =
      match crumbOfReply reply with
      | .ok k => (.ok k, { c with records, crumb := some k })
      | .error e => (.error e, { c with records }) := by
  by_cases hmissing : reply.status = 404
  · refine ⟨c.records ++ [.plain logger .debug "server issues no crumb" []], ?_⟩
    rw [takeAnswer, if_pos hmissing, call_bind, call_log]
    dsimp only
    rw [call_bind, call_liftM]
    rcases crumbOfReply reply with e | k <;> rfl
  · refine ⟨c.records, ?_⟩
    rw [takeAnswer, if_neg hmissing, call_bind, call_liftM]
    rcases crumbOfReply reply with e | k <;> rfl

theorem call_askCrumb (h : c.crumb = none) :
    c.call (askCrumb transport) =
      match c.address (crumbPage c.settings) with
      | .error e => (.error e, c)
      | .ok u =>
        c.call (send transport (fun words => .integration s!"crumb request failed: {words}")
          (getRequest c.settings u) >>= fun found => takeAnswer found.1) := by
  rw [askCrumb, call_bind, call_get]
  dsimp only
  rw [h]
  dsimp only
  rw [call_bind, call_liftM]
  rcases c.address (crumbPage c.settings) with e | u <;> rfl

/-- **How asking ends**, where the issuer has not answered yet: a definitive answer is remembered,
an attempt that fails is not. -/
theorem call_askCrumb_of_unknown (transport : Http.Transport σ) (h : c.crumb = none) :
    ∃ c' asked, Asks c asked ∧ c'.wire.sent = c.wire.sent ++ asked ∧
      c'.crumb = (inquiry transport c).definitive? ∧
      ((∃ k, (inquiry transport c).definitive? = some k ∧
          c.call (askCrumb transport) = (.ok k, c')) ∨
        ((inquiry transport c).definitive? = none ∧ ∃ e, Foiled (inquiry transport c) e ∧
          c.call (askCrumb transport) = (.error e, c'))) := by
  rw [call_askCrumb h]
  rcases haddress : c.address (crumbPage c.settings) with e | u
  · have hinquiry : inquiry transport c = .astray := by rw [inquiry, haddress]
    obtain ⟨words, rfl⟩ : ∃ words, e = .badAddress words := by
      rw [address] at haddress
      split at haddress <;> cases haddress
      exact ⟨_, rfl⟩
    rw [hinquiry]
    exact ⟨c, [], .nowhere haddress, (List.append_nil _).symm, h,
      .inr ⟨rfl, _, .astray words, rfl⟩⟩
  · obtain ⟨asked, htrail, hsent⟩ :=
      Http.Wire.exists_trail_exchange transport (getRequest c.settings u) c.wire
    have hasks : Asks c asked := .trail haddress htrail
    dsimp only
    rw [call_bind, call_send]
    rcases hout : c.wire.exchange transport (getRequest c.settings u) with
      ⟨(words | fault) | ⟨reply, place⟩, wire⟩
    all_goals rw [hout] at hsent
    · have hinquiry : inquiry transport c = .broken := by simp only [inquiry, haddress, hout]
      rw [hinquiry]
      exact ⟨{ c with wire }, asked, hasks, hsent, h, .inr ⟨rfl, _, .broken _, rfl⟩⟩
    · have hinquiry : inquiry transport c = .astray := by simp only [inquiry, haddress, hout]
      rw [hinquiry]
      exact ⟨{ c with wire }, asked, hasks, hsent, h, .inr ⟨rfl, _, .astray _, rfl⟩⟩
    · have hinquiry : inquiry transport c = .answered reply := by
        simp only [inquiry, haddress, hout]
      rw [hinquiry, Inquiry.definitive?]
      obtain ⟨records, htake⟩ := call_takeAnswer reply { c with wire }
      dsimp only
      rw [htake]
      rcases crumbOfReply_eq reply with ⟨k, hk, hok⟩ | ⟨hnone, words, herror⟩
      · rw [hok, hk]
        exact ⟨{ c with wire, records, crumb := some k }, asked, hasks, hsent, rfl,
          .inl ⟨k, rfl, rfl⟩⟩
      · rw [herror, hnone]
        exact ⟨{ c with wire, records }, asked, hasks, hsent, h,
          .inr ⟨rfl, _, .answered reply words, rfl⟩⟩

/-! ### Sending the form -/

/-- The name of a crumb's field and its value, if both are texts that can be written. -/
def texts? : Crumb → Option (String × String)
  | ⟨.text field, .text value, none⟩ => some (field, value)
  | _ => none

/-- A form of these fields with the crumb, if there is one: a text in a field of its own. -/
inductive Carries (fields : List (String × Json)) : Option Crumb → List (String × Json) → Prop
  | bare : Carries fields none fields
  | crumb {k : Crumb} {field value : String} (h : texts? k = some (field, value))
      (hnew : field ∉ fields.map Prod.fst) :
    Carries fields (some k) (fields ++ [(field, .text value)])

/-- What a call makes of the answer to its form. -/
def judge (reading : Http.Reading) (action : String) (seen : Http.Reply → Call σ Unit)
    (reply : Http.Reply) : Call σ Unit := do
  seen reply
  checkReply reading action reply

/-- What a call goes on with when it has got the crumb. -/
def sendForm (transport : Http.Transport σ) (action path : String) (fields : List (String × Json))
    (seen : Http.Reply → Call σ Unit) (k : Option Crumb) : Call σ Unit := do
  let form ← addCrumb fields k
  let c ← get
  let u ← c.address (page c.settings path)
  checkCrumb k
  let (reply, _) ← send transport (fun words => .submission action words none)
    (postRequest c.settings u form)
  judge c.reading action seen reply

theorem post_eq (action path : String) (fields : List (String × Json))
    (seen : Http.Reply → Call σ Unit) :
    post transport action path fields seen =
      askCrumb transport >>= sendForm transport action path fields seen := by
  rw [post]
  rfl

/-- The requests that a client sends for a form of these fields: they originate in one POST to the
page, and the form is the fields with the crumb. There are none if that cannot be written. -/
structure Posts (c : Client σ) (path : String) (fields : List (String × Json)) (k : Option Crumb)
    (posted : List Request) : Prop where
  originates : posted = [] ∨ ∃ u, c.address (page c.settings path) = .ok u ∧
    ∃ form, Trail (postRequest c.settings u form) posted
  carries : ∀ u, c.address (page c.settings path) = .ok u →
    ∀ form, Carries fields k form → Trail (postRequest c.settings u form) posted
  flawed : (k.bind Crumb.flaw).isSome → posted = []

/-- Judging an answer concerns neither what was sent nor the crumb, if what is logged does not. -/
theorem keeps_judge {seen : Http.Reply → Call σ Unit} {reading : Http.Reading} {action : String}
    (hseen : ∀ reply, Keeps (fun c : Client σ => (c.wire, c.crumb)) (seen reply))
    (reply : Http.Reply) :
    Keeps (fun c : Client σ => (c.wire, c.crumb)) (judge reading action seen reply) :=
  (hseen reply).bind fun _ => .liftM _

/-- The request that sends a form of these fields with the crumb, if they fit together and can be
written, and there is such a page. -/
def formRequest? (c : Client σ) (path : String) (fields : List (String × Json))
    (k : Option Crumb) : Option Request :=
  match addCrumb fields k, c.address (page c.settings path), checkCrumb k with
  | .ok form, .ok u, .ok () => some (postRequest c.settings u form)
  | _, _, _ => none

/-- **What is sent for a form**, once the crumb is there, is what its request originates. -/
theorem originates_sendForm {action path : String} {fields : List (String × Json)}
    {seen : Http.Reply → Call σ Unit}
    (hseen : ∀ reply, Keeps (fun c : Client σ => (c.wire, c.crumb)) (seen reply))
    (k : Option Crumb) (c : Client σ) :
    ∃ posted, Originates (formRequest? c path fields k) posted ∧
      (c.call (sendForm transport action path fields seen k)).2.wire.sent =
        c.wire.sent ++ posted ∧
      (c.call (sendForm transport action path fields seen k)).2.crumb = c.crumb := by
  rw [sendForm, call_bind, call_liftM, formRequest?]
  rcases addCrumb fields k with e | form
  · exact ⟨[], .nothing, (List.append_nil _).symm, rfl⟩
  · dsimp only
    rw [call_bind, call_get]
    dsimp only
    rw [call_bind, call_liftM]
    rcases c.address (page c.settings path) with e | u
    · exact ⟨[], .nothing, (List.append_nil _).symm, rfl⟩
    · dsimp only
      rw [call_bind, call_liftM]
      rcases checkCrumb k with e | ⟨⟩
      · exact ⟨[], .nothing, (List.append_nil _).symm, rfl⟩
      · obtain ⟨posted, htrail, hsent⟩ :=
          Http.Wire.exists_trail_exchange transport (postRequest c.settings u form) c.wire
        refine ⟨posted, .trail htrail, ?_⟩
        dsimp only
        rw [call_bind, call_send]
        rcases hout : c.wire.exchange transport (postRequest c.settings u form) with
          ⟨(words | fault) | ⟨reply, place⟩, wire⟩
        all_goals rw [hout] at hsent
        · exact ⟨hsent, rfl⟩
        · exact ⟨hsent, rfl⟩
        · obtain ⟨hwire, hcrumb⟩ := Prod.ext_iff.mp (keeps_judge hseen reply { c with wire })
          exact ⟨(congrArg Http.Wire.sent hwire).trans hsent, hcrumb⟩

namespace Errand

/-- The form that an errand sends: the path of its page, and its own fields. -/
def form? : Errand → Option (String × List (String × Json))
  | crumb => none
  | submit r => some (r.path, [])
  | saveNote name note =>
    some ("saveNote?resource=" ++ Percent.encodeComponent name, [("note", .text note)])

/-- Its form with the crumb as a request. -/
def request? (c : Client σ) (k : Option Crumb) (q : Errand) : Option Request :=
  q.form?.bind fun form => formRequest? c form.1 form.2 k

/-- What an errand sends once the crumb is there: its form, if it has one. -/
def Sends (c : Client σ) (k : Option Crumb) (sent : List Request) : Errand → Prop
  | crumb => sent = []
  | submit r => Posts c r.path [] k sent
  | saveNote name note =>
    Posts c ("saveNote?resource=" ++ Percent.encodeComponent name) [("note", .text note)] k sent

/-- What an errand does first of all: an action counts as submitted. -/
def noted (c : Client σ) : Errand → Client σ
  | submit r => { c with submitted := c.submitted ++ [r] }
  | _ => c

/-- What an errand goes on with when it has got the crumb. -/
def rest (transport : Http.Transport σ) : Errand → Option Crumb → Call σ Unit
  | crumb, _ => pure ()
  | submit r, k => sendForm transport r.action.endpoint r.path [] (fun reply =>
      log logger Audit.Level.debug "action submitted" [("action", .text r.action.endpoint),
        ("path", .text r.path), ("status", .int reply.status)]) k
  | saveNote name note, k => do
      sendForm transport "saveNote" ("saveNote?resource=" ++ Percent.encodeComponent name)
        [("note", .text note)] (fun _ => pure ()) k
      log logger Audit.Level.info "note saved" [("resource", .text name)]

/-- Every errand asks for the crumb before it sends anything. -/
theorem call_call (q : Errand) (c : Client σ) :
    c.call (q.call transport) = (q.noted c).call (askCrumb transport >>= q.rest transport) := by
  cases q with
  | crumb => rfl
  | submit r =>
    rw [call, Client.submit, call_bind, call_modify, post_eq]
    rfl
  | saveNote name note =>
    rw [call, Client.saveNote, post_eq, bind_assoc]
    rfl

/-- What an errand sends once the crumb is there is what its request originates. -/
theorem originates_rest (transport : Http.Transport σ) (q : Errand) (k : Option Crumb)
    (c : Client σ) :
    ∃ sent, Originates (q.request? c k) sent ∧
      (c.call (q.rest transport k)).2.wire.sent = c.wire.sent ++ sent ∧
      (c.call (q.rest transport k)).2.crumb = c.crumb := by
  cases q with
  | crumb => exact ⟨[], .nothing, (List.append_nil _).symm, rfl⟩
  | submit r => exact originates_sendForm (fun _ _ => rfl) k c
  | saveNote name note =>
    have hlog (x : Call σ Unit) :
        (c.call (do x; log logger .info "note saved" [("resource", .text name)])).2.wire =
          (c.call x).2.wire ∧
        (c.call (do x; log logger .info "note saved" [("resource", .text name)])).2.crumb =
          (c.call x).2.crumb :=
      Prod.ext_iff.mp (Keeps.snd_call_bind (f := fun c => (c.wire, c.crumb)) (fun _ _ => rfl) c)
    rw [rest, (hlog _).1, (hlog _).2]
    exact originates_sendForm (fun _ _ => rfl) k c

end Errand

/-! ### Errands one after another -/

/-- The client after errands. -/
def after (transport : Http.Transport σ) (c : Client σ) (past : List Errand) : Client σ :=
  past.foldl (fun c q => (c.call (q.call transport)).2) c

/-- The first definitive answer of the issuer in the course of errands, if it has given one. -/
def known (transport : Http.Transport σ) (c : Client σ) : List Errand → Option (Option Crumb)
  | [] => none
  | q :: past =>
    (inquiry transport c).definitive?.or (known transport (c.call (q.call transport)).2 past)

theorem Asks.method_get {asked : List Request} (h : Asks c asked) :
    ∀ r ∈ asked, r.method = .get := by
  cases h with
  | nowhere => exact fun r hr => absurd hr List.not_mem_nil
  | trail _ htrail => exact htrail.method_get rfl

/-- Where the server is does not change, so what it is sent does not depend on the moment. -/
structure SamePlace (c' c : Client σ) : Prop where
  settings : c'.settings = c.settings
  directory : c'.directory = c.directory

theorem SamePlace.trans {c'' : Client σ} (h : SamePlace c'' c') (h' : SamePlace c' c) :
    SamePlace c'' c :=
  ⟨h.settings.trans h'.settings, h.directory.trans h'.directory⟩

theorem SamePlace.address_eq (h : SamePlace c' c) (path : String) :
    c'.address path = c.address path := by
  rw [address, address, h.directory]

theorem samePlace_askCrumb (transport : Http.Transport σ) (c : Client σ) :
    SamePlace (c.call (askCrumb transport)).2 c := by
  have hblind : Blind fun c : Client σ => (c.settings, c.directory) :=
    ⟨fun _ _ => rfl, fun _ _ => rfl, fun _ _ => rfl⟩
  obtain ⟨hsettings, hdirectory⟩ := Prod.ext_iff.mp (hblind.askCrumb c)
  exact ⟨hsettings, hdirectory⟩

namespace Errand

theorem samePlace_noted (q : Errand) (c : Client σ) : SamePlace (q.noted c) c := by
  cases q <;> exact ⟨rfl, rfl⟩

@[simp] theorem wire_noted (q : Errand) (c : Client σ) : (q.noted c).wire = c.wire := by
  cases q <;> rfl

@[simp] theorem crumb_noted (q : Errand) (c : Client σ) : (q.noted c).crumb = c.crumb := by
  cases q <;> rfl

@[simp] theorem inquiry_noted (transport : Http.Transport σ) (q : Errand) (c : Client σ) :
    inquiry transport (q.noted c) = inquiry transport c := by
  rw [inquiry, inquiry, (q.samePlace_noted c).address_eq, (q.samePlace_noted c).settings,
    wire_noted]

end Errand

end Lockable.Client
