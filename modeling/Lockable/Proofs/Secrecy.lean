import Lockable.Proofs.Calls

/-!
# Keeping the token secret

Two runs that differ in the **token** only: the same program, on clients whose settings agree apart
from it. Where the token can go is said by the requests, which carry it in their authorization, and
the server is one whose answers do not depend on that (`Http.Alike`). Then nothing else can tell the
runs apart: they succeed with the same values or fail in the same words, leave the same records, and
send the same requests but for the authorization (`Client.Alike`).

The law is put together from the programs as they are written. `Agree S R` says of two programs that
from states related by `S` they come to values related by `R`, or to the same failure, and to states
related by `S` again.
-/

namespace Lockable

/-! ### Two runs -/

/-- Both outcomes are the same failure, or values that are related. -/
inductive SameOutcome {ε α β : Type} (R : α → β → Prop) : Except ε α → Except ε β → Prop
  | ok {a : α} {b : β} (h : R a b) : SameOutcome R (.ok a) (.ok b)
  | error (e : ε) : SameOutcome R (.error e) (.error e)

theorem SameOutcome.refl {ε α : Type} (x : Except ε α) : SameOutcome Eq x x := by
  cases x with
  | ok a => exact .ok rfl
  | error e => exact .error e

theorem SameOutcome.eq {ε α : Type} {x y : Except ε α} (h : SameOutcome Eq x y) : x = y := by
  cases h with
  | ok h => rw [h]
  | error e => rfl

/-- From related states two programs come to the same outcome, and to related states. -/
def Agree {ρ ε α β : Type} (S : ρ → ρ → Prop) (R : α → β → Prop) (x : ExceptT ε (StateM ρ) α)
    (y : ExceptT ε (StateM ρ) β) : Prop :=
  ∀ s s', S s s' →
    SameOutcome R (x.run.run s).1 (y.run.run s').1 ∧ S (x.run.run s).2 (y.run.run s').2

namespace Agree

variable {ρ ε α β γ δ : Type} {S : ρ → ρ → Prop} {R : α → β → Prop} {Q : γ → δ → Prop}

protected theorem pure {a : α} {b : β} (h : R a b) :
    Agree S R (pure a : ExceptT ε (StateM ρ) α) (pure b) :=
  fun _ _ hs => ⟨.ok h, hs⟩

protected theorem throw (e : ε) : Agree S R (throw e : ExceptT ε (StateM ρ) α) (throw e) :=
  fun _ _ hs => ⟨.error e, hs⟩

protected theorem get : Agree S S (get : ExceptT ε (StateM ρ) ρ) get :=
  fun _ _ hs => ⟨.ok hs, hs⟩

protected theorem set {s s' : ρ} (hs : S s s') :
    Agree S Eq (set s : ExceptT ε (StateM ρ) PUnit) (set s') :=
  fun _ _ _ => ⟨.ok rfl, hs⟩

protected theorem modify {f g : ρ → ρ} (h : ∀ s s', S s s' → S (f s) (g s')) :
    Agree S Eq (modify f : ExceptT ε (StateM ρ) PUnit) (modify g) :=
  fun s s' hs => ⟨.ok rfl, h s s' hs⟩

protected theorem liftM {x : Except ε α} {y : Except ε β} (h : SameOutcome R x y) :
    Agree S R (liftM x : ExceptT ε (StateM ρ) α) (liftM y) := by
  intro s s' hs
  cases h with
  | ok h => exact ⟨.ok h, hs⟩
  | error e => exact ⟨.error e, hs⟩

protected theorem bind {x : ExceptT ε (StateM ρ) α} {y : ExceptT ε (StateM ρ) β}
    {f : α → ExceptT ε (StateM ρ) γ} {g : β → ExceptT ε (StateM ρ) δ} (hxy : Agree S R x y)
    (hfg : ∀ a b, R a b → Agree S Q (f a) (g b)) : Agree S Q (x >>= f) (y >>= g) := by
  intro s s' hs
  obtain ⟨hout, hstate⟩ := hxy s s' hs
  rw [ExceptT.run_bind, ExceptT.run_bind, StateT.run_bind, StateT.run_bind]
  generalize x.run.run s = after at hout hstate
  generalize y.run.run s' = after' at hout hstate
  obtain ⟨a, t⟩ := after
  obtain ⟨b, t'⟩ := after'
  cases hout with
  | ok h => exact hfg _ _ h t t' hstate
  | error e => exact ⟨.error e, hstate⟩

/-- A program that goes on with the same value on both sides. -/
protected theorem bind_eq {x y : ExceptT ε (StateM ρ) α} {f : α → ExceptT ε (StateM ρ) γ}
    {g : α → ExceptT ε (StateM ρ) δ} (hxy : Agree S Eq x y) (hfg : ∀ a, Agree S Q (f a) (g a)) :
    Agree S Q (x >>= f) (y >>= g) :=
  hxy.bind fun a _ h => h ▸ hfg a

protected theorem mapM {f : γ → ExceptT ε (StateM ρ) α} (hf : ∀ a, Agree S Eq (f a) (f a))
    (l : List γ) : Agree S Eq (l.mapM f) (l.mapM f) := by
  induction l with
  | nil => exact .pure rfl
  | cons a rest ih =>
    rw [List.mapM_cons]
    exact (hf a).bind_eq fun _ => ih.bind_eq fun _ => .pure rfl

protected theorem forM {f : γ → ExceptT ε (StateM ρ) PUnit} (hf : ∀ a, Agree S Eq (f a) (f a))
    (l : List γ) : Agree S Eq (l.forM f) (l.forM f) := by
  induction l with
  | nil => exact .pure rfl
  | cons a rest ih => exact (hf a).bind_eq fun _ => ih

end Agree

/-! ### Requests that differ in their authorization -/

namespace Http

variable {σ : Type} {transport : Transport σ} {r r' : Request} {s s' : σ} {w w' : Wire σ}

/-- The request without its authorization. -/
def Request.unauthorized (r : Request) : Request := { r with authorization := none }

/-- What a server answers to requests, one after another. -/
def answers (transport : Transport σ) : σ → List Request → List (Except String Reply)
  | _, [] => []
  | s, r :: rest => (transport r s).1 :: answers transport (transport r s).2 rest

/-- From these states on, the answers to requests that differ in their authorization only are the
same. -/
def Alike (transport : Transport σ) (s s' : σ) : Prop :=
  ∀ rs rs' : List Request, rs.map Request.unauthorized = rs'.map Request.unauthorized →
    answers transport s rs = answers transport s' rs'

/-- One request: the same answer, and from then on the same answers. -/
theorem Alike.next (h : Alike transport s s') (hr : r.unauthorized = r'.unauthorized) :
    (transport r s).1 = (transport r' s').1 ∧
      Alike transport (transport r s).2 (transport r' s').2 := by
  have hcons (rs rs' : List Request)
      (hrs : rs.map Request.unauthorized = rs'.map Request.unauthorized) :
      (transport r s).1 = (transport r' s').1 ∧
        answers transport (transport r s).2 rs = answers transport (transport r' s').2 rs' := by
    refine List.cons.inj (h (r :: rs) (r' :: rs') ?_)
    rw [List.map_cons, List.map_cons, hr, hrs]
  exact ⟨(hcons [] [] rfl).1, fun rs rs' hrs => (hcons rs rs' hrs).2⟩

/-- A server that does not look at the authorization does not depend on it. -/
theorem alike_of_unauthorized (h : ∀ r s, transport r s = transport r.unauthorized s) :
    Alike transport s s := by
  intro rs
  induction rs generalizing s with
  | nil =>
    intro rs' hrs
    rw [List.map_eq_nil_iff.mp hrs.symm]
  | cons r rest ih =>
    rintro (_ | ⟨r', rest'⟩) hrs
    · cases hrs
    · obtain ⟨hr, hrest⟩ := List.cons.inj hrs
      have hsame : transport r s = transport r' s := by rw [h r, h r', hr]
      rw [answers, answers, hsame, ih rest' hrest]

/-- Redirects look at the authorization only to pass it on. -/
theorem redirected_unauthorized (hr : r.unauthorized = r'.unauthorized) (status : Nat)
    (location : String) :
    SameOutcome (fun next next' : Request => next.unauthorized = next'.unauthorized)
      (redirected r status location) (redirected r' status location) := by
  obtain ⟨hmethod, hurl, hbody, htype, -⟩ := Request.mk.inj hr
  rw [redirected, redirected, ← hurl, ← hmethod, ← hbody, ← htype]
  rcases redirectedUrl r.url location with e | url
  · exact .error e
  · exact .ok rfl

/-- The wires have sent the same, but for the authorization, and the servers answer alike. -/
structure Wire.Alike (transport : Transport σ) (w w' : Wire σ) : Prop where
  server : Http.Alike transport w.server w'.server
  sent : w.sent.map Request.unauthorized = w'.sent.map Request.unauthorized

theorem Wire.Alike.send (hw : w.Alike transport w') (hr : r.unauthorized = r'.unauthorized) :
    (w.send transport r).1 = (w'.send transport r').1 ∧
      (w.send transport r).2.Alike transport (w'.send transport r').2 := by
  obtain ⟨hanswer, hserver⟩ := hw.server.next hr
  refine ⟨hanswer, hserver, ?_⟩
  rw [Wire.send, Wire.send, List.map_append, List.map_append, hw.sent, List.map_singleton,
    List.map_singleton, hr]

/-- An exchange comes to the same. -/
theorem Wire.Alike.follow (fuel : Nat) (hw : w.Alike transport w')
    (hr : r.unauthorized = r'.unauthorized) :
    (w.follow transport fuel r).1 = (w'.follow transport fuel r').1 ∧
      (w.follow transport fuel r).2.Alike transport (w'.follow transport fuel r').2 := by
  induction fuel generalizing r r' w w' with
  | zero => exact ⟨rfl, hw⟩
  | succ fuel ih =>
    obtain ⟨hanswer, hsent⟩ := hw.send hr
    have hurl : r.url = r'.url := (Request.mk.inj hr).2.1
    rw [Wire.follow, Wire.follow]
    generalize w.send transport r = after at hanswer hsent
    generalize w'.send transport r' = after' at hanswer hsent
    obtain ⟨answer, wire⟩ := after
    obtain ⟨answer', wire'⟩ := after'
    obtain rfl : answer = answer' := hanswer
    rcases answer with words | reply
    · exact ⟨rfl, hsent⟩
    · dsimp only
      rcases reply.redirect? with _ | location
      · exact ⟨by rw [hurl], hsent⟩
      · have hnext := redirected_unauthorized hr reply.status location
        dsimp only
        generalize redirected r reply.status location = next at hnext
        generalize redirected r' reply.status location = next' at hnext
        cases hnext with
        | ok h => exact ih hsent h
        | error e => exact ⟨rfl, hsent⟩

end Http

/-! ### Clients that differ in their tokens -/

/-- The settings without the token. -/
def ServerSettings.withoutToken (s : ServerSettings) : ServerSettings := { s with apiToken := none }

namespace Client

variable {σ : Type} {transport : Http.Transport σ} {c c' : Client σ}

/-- The clients agree but for the token, and for where it has gone. -/
structure Alike (transport : Http.Transport σ) (c c' : Client σ) : Prop where
  settings : c.settings.withoutToken = c'.settings.withoutToken
  directory : c.directory = c'.directory
  reading : c.reading = c'.reading
  crumb : c.crumb = c'.crumb
  wire : c.wire.Alike transport c'.wire
  records : c.records = c'.records
  submitted : c.submitted = c'.submitted
  listings : c.listings = c'.listings

namespace Alike

theorem address_eq (h : Alike transport c c') (path : String) :
    c.address path = c'.address path := by
  rw [address, address, h.directory]

theorem page_eq (h : Alike transport c c') (path : String) :
    page c.settings path = page c'.settings path := by
  have hroot : c.settings.rootPath = c'.settings.rootPath :=
    (ServerSettings.mk.inj h.settings).2.1
  rw [page, page, hroot]

theorem crumbPage_eq (h : Alike transport c c') : crumbPage c.settings = crumbPage c'.settings := by
  have hcrumb : c.settings.crumbPath = c'.settings.crumbPath :=
    (ServerSettings.mk.inj h.settings).2.2.1
  rw [crumbPage, crumbPage, hcrumb]

end Alike

/-- There are clients for both settings, which agree, or for neither. -/
theorem start_alike {settings settings' : ServerSettings} {server server' : σ}
    (hsettings : settings.withoutToken = settings'.withoutToken)
    (hserver : Http.Alike transport server server') (reading : Http.Reading) :
    SameOutcome (Alike transport) (start settings server reading)
      (start settings' server' reading) := by
  have hurl : settings.baseUrl = settings'.baseUrl := (ServerSettings.mk.inj hsettings).1
  rw [start, start, ← hurl]
  rcases (Url.parse settings.baseUrl).bind Url.directory with fault | directory
  · exact .error _
  · exact .ok ⟨hsettings, rfl, rfl, rfl, ⟨hserver, rfl⟩, rfl, rfl, rfl⟩

theorem agree_log (logger : String) (level : Audit.Level) (message : String)
    (attributes : List (String × Json)) :
    Agree (Alike transport) Eq (log logger level message attributes)
      (log logger level message attributes) :=
  .modify fun _ _ h => { h with records := by rw [h.records] }

/-- Requests that differ in their authorization only are answered alike. -/
theorem agree_send (failed : String → Failure) {r r' : Http.Request}
    (hr : r.unauthorized = r'.unauthorized) :
    Agree (Alike transport) Eq (send transport failed r) (send transport failed r') := by
  refine Agree.get.bind fun c c' h => ?_
  obtain ⟨hout, hwire⟩ := h.wire.follow (Http.maxRedirects + 1) hr
  dsimp only
  rw [Http.Wire.exchange, Http.Wire.exchange]
  generalize c.wire.follow transport (Http.maxRedirects + 1) r = after at hout hwire
  generalize c'.wire.follow transport (Http.maxRedirects + 1) r' = after' at hout hwire
  obtain ⟨outcome, wire⟩ := after
  obtain ⟨outcome', wire'⟩ := after'
  obtain rfl : outcome = outcome' := hout
  refine (Agree.set { h with wire := hwire }).bind_eq fun _ => ?_
  rcases outcome with (words | fault) | found
  · exact .throw _
  · exact .throw _
  · exact .pure rfl

theorem agree_askCrumb : Agree (Alike transport) Eq (askCrumb transport) (askCrumb transport) := by
  refine Agree.get.bind fun c c' h => ?_
  dsimp only
  rw [← h.crumb, ← h.crumbPage_eq]
  rcases c.crumb with _ | crumb
  · dsimp only
    rw [← h.address_eq]
    refine (Agree.liftM (.refl _)).bind_eq fun u => ?_
    have hr : (getRequest c.settings u).unauthorized =
        (getRequest c'.settings u).unauthorized := rfl
    refine (agree_send _ hr).bind_eq fun ⟨reply, _⟩ => ?_
    -- what both branches go on with, whether it was logged that there is no crumb or not
    have hrest : ∀ _ : PUnit, Agree (Alike transport) Eq (do
        let crumb ← liftM (crumbOfReply reply)
        modify fun c => { c with crumb := some crumb }
        pure crumb : Call σ (Option Crumb)) (do
        let crumb ← liftM (crumbOfReply reply)
        modify fun c => { c with crumb := some crumb }
        pure crumb) := fun _ =>
      (Agree.liftM (.refl _)).bind_eq fun crumb =>
        (Agree.modify fun _ _ h => { h with crumb := rfl }).bind_eq fun _ => .pure rfl
    dsimp only
    split
    · exact (agree_log _ _ _ _).bind_eq hrest
    · exact hrest ⟨⟩
  · exact .pure rfl

theorem agree_post {action path : String} {fields : List (String × Json)}
    {seen : Http.Reply → Call σ Unit}
    (hseen : ∀ reply, Agree (Alike transport) Eq (seen reply) (seen reply)) :
    Agree (Alike transport) Eq (post transport action path fields seen)
      (post transport action path fields seen) := by
  refine agree_askCrumb.bind_eq fun crumb => (Agree.liftM (.refl _)).bind_eq fun form => ?_
  refine Agree.get.bind fun c c' h => ?_
  dsimp only
  rw [← h.page_eq, ← h.address_eq, ← h.reading]
  refine (Agree.liftM (.refl _)).bind_eq fun u => (Agree.liftM (.refl _)).bind_eq fun _ => ?_
  have hr : (postRequest c.settings u form).unauthorized =
      (postRequest c'.settings u form).unauthorized := rfl
  exact (agree_send _ hr).bind_eq fun ⟨reply, _⟩ => (hseen reply).bind_eq fun _ => .liftM (.refl _)

theorem agree_submit (r : ActionRequest) :
    Agree (Alike transport) Eq (submit transport r) (submit transport r) :=
  (Agree.modify fun _ _ h => { h with submitted := by rw [h.submitted] }).bind_eq fun _ =>
    agree_post fun _ => agree_log _ _ _ _

theorem agree_dispatch (capability : Capability) (source : Option Source) :
    Agree (Alike transport) Eq (dispatch transport capability source)
      (dispatch transport capability source) := by
  refine (Agree.liftM (.refl _)).bind_eq fun request => ?_
  cases request with
  | none => exact (agree_log _ _ _ _).bind_eq fun _ => .pure rfl
  | some r =>
    exact (agree_log _ _ _ _).bind_eq fun _ => (agree_submit r).bind_eq fun _ => .pure rfl

theorem agree_saveNote (name note : String) :
    Agree (Alike transport) Eq (saveNote transport name note) (saveNote transport name note) :=
  (agree_post fun _ => .pure rfl).bind_eq fun _ => agree_log _ _ _ _

theorem agree_listResources (user : Json) :
    Agree (Alike transport) Eq (listResources transport user) (listResources transport user) := by
  refine Agree.get.bind fun c c' h => ?_
  dsimp only
  rw [← h.page_eq, ← h.address_eq]
  refine (Agree.liftM (.refl _)).bind_eq fun u => ?_
  have hr : (getRequest c.settings u).unauthorized = (getRequest c'.settings u).unauthorized := rfl
  refine (agree_send _ hr).bind_eq fun ⟨reply, _⟩ => ?_
  dsimp only
  split
  · split
    · exact .throw _
    · refine (Agree.liftM (.refl _)).bind_eq fun entries => ?_
      refine (Agree.mapM (fun _ => .liftM (.refl _)) _).bind_eq fun resources => ?_
      exact (Agree.modify fun _ _ h => { h with listings := by rw [h.listings] }).bind_eq
        fun _ => .pure rfl
  · exact .throw _

end Client

end Lockable
