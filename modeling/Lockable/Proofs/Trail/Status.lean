import Mathlib.Control.Monad.Basic
import Lockable.Proofs.Command.Gating
import Lockable.Proofs.Desk.Contacts
import Lockable.Proofs.Trail.Records

/-!
# Whether the trail tells of a status

For every action that is submitted an entry with the action and all its resources is written to the
log of the audit trail, if the level is that of information or below. The **status** of the answer
is another matter: it is told of when the level is that of debugging, and then for every answer that
comes back, and never otherwise (`Audit.status_told_iff_debugging`). This is about what is written;
that the files of the log hold the latest of it, and all of it until the open one is full, is said
of every trail (`Audit.Trail.exists_log`).

On the command line the trail is part of the run. The desk shares its trail with whatever else is
logged meanwhile, so there it is any **journal** that has the client's records among others that
tell of no status.
-/

namespace Lockable

open Audit (Record)

/-! ### Entries -/

namespace Audit

variable {level : Level} {records : List Record} {r : ActionRequest} {reply : Http.Reply}

/-- The record can be written, and tells of a status for debugging only. -/
structure Record.Routine (x : Record) : Prop where
  heard : x.Heard
  debugging : ∀ status, x.Carries "status" status → x.level = Level.debug

/-- The record can be written, and tells of no status. -/
structure Record.Silent (x : Record) : Prop where
  heard : x.Heard
  silent : ∀ status, ¬x.Carries "status" status

theorem Record.Silent.routine {x : Record} (h : x.Silent) : x.Routine :=
  ⟨h.heard, fun status hstatus => absurd hstatus (h.silent status)⟩

/-- No entry tells of a status, unless the level is that of debugging. -/
def Quiet (level : Level) (entries : List Record) : Prop :=
  Level.debug < level → ∀ x ∈ entries, ∀ status, ¬x.Carries "status" status

/-- What the entries tell of an action that was submitted, and of the final answer to it if there is
one. -/
structure Tells (level : Level) (entries : List Record) (r : ActionRequest)
    (answer : Option Http.Reply) : Prop where
  request : level ≤ Level.info → ∃ x ∈ entries, x.Carries "action" (.text r.action.endpoint) ∧
    x.Carries "resources" (.list (r.resources.map .text))
  status : ∀ reply, answer = some reply →
    ((∃ x ∈ entries, x.Carries "action" (.text r.action.endpoint) ∧
      x.Carries "path" (.text r.path) ∧ x.Carries "status" (.int reply.status)) ↔
        level ≤ Level.debug)

theorem quiet_of_routine (h : ∀ x ∈ records, x.Routine) :
    Quiet level (records.filter fun x => level ≤ x.level) := by
  intro hlevel x hx status hstatus
  obtain ⟨hx, hgrave⟩ := List.mem_filter.mp hx
  have hgrave : level ≤ x.level := of_decide_eq_true hgrave
  rw [(h x hx).debugging status hstatus] at hgrave
  exact absurd hlevel (Int.not_lt.mpr hgrave)

/-- Where both records are left, the level decides on what is told. -/
theorem tells_of_mem {answer : Option Http.Reply} (h : ∀ x ∈ records, x.Routine)
    (hdispatching : Client.dispatching r ∈ records)
    (hanswered : ∀ reply, answer = some reply → Client.answered r reply ∈ records) :
    Tells level (records.filter fun x => level ≤ x.level) r answer where
  request hlevel :=
    ⟨_, List.mem_filter.mpr ⟨hdispatching, decide_eq_true hlevel⟩, Client.carries_dispatching r⟩
  status reply hreply := by
    constructor
    · rintro ⟨x, hx, -, -, hstatus⟩
      exact Int.not_lt.mp fun hlevel => quiet_of_routine h hlevel x hx _ hstatus
    · intro hlevel
      exact ⟨_, List.mem_filter.mpr ⟨hanswered reply hreply, decide_eq_true hlevel⟩,
        Client.carries_answered r reply⟩

end Audit

open Audit (Quiet Tells)

theorem Client.Entry.routine {x : Record} (h : Client.Entry x) : x.Routine :=
  ⟨h.heard, fun _ => h.level_of_status⟩

/-! ### The command line -/

namespace Command

variable {σ α β : Type} {around : Surroundings σ} {context : Context} {s : Session σ} {server : σ}
  {names : List String} {arguments : List String}

/-- The part logs only what is routine, however it ends. -/
def Logs (x : Part σ α) : Prop :=
  ∀ s, ∃ new, (x.run.run s).2.trail = s.trail.logAll new ∧ ∀ r ∈ new, r.Routine

namespace Logs

/-- A part that leaves the session alone logs nothing. -/
theorem of_same {x : Part σ α} (h : ∀ s, (x.run.run s).2.trail = s.trail) : Logs x :=
  fun s => ⟨[], h s, fun _ hr => absurd hr List.not_mem_nil⟩

protected theorem get (x : Except Failure α) : Logs (get x : Part σ α) := of_same fun s => by
  rw [run_get]

protected theorem log {r : Record} (h : r.Routine) : Logs (log r : Part σ Unit) :=
  fun _ => ⟨[r], rfl, fun _ hr => List.mem_singleton.mp hr ▸ h⟩

protected theorem bind {x : Part σ α} {g : α → Part σ β} (hx : Logs x) (hg : ∀ a, Logs (g a)) :
    Logs (x >>= g) := by
  intro s
  obtain ⟨new, hnew, hroutine⟩ := hx s
  rw [run_bind]
  rcases hrun : x.run.run s with ⟨stop | a, s'⟩ <;> rw [hrun] at hnew
  · exact ⟨new, hnew, hroutine⟩
  · obtain ⟨new', hnew', hroutine'⟩ := hg a s'
    have hnew : s'.trail = s.trail.logAll new := hnew
    refine ⟨new ++ new', ?_, fun r hr =>
      (List.mem_append.mp hr).elim (hroutine r) (hroutine' r)⟩
    dsimp only
    rw [hnew', hnew, Audit.Trail.logAll_append]

protected theorem forM {g : α → Part σ PUnit} {l : List α} (hg : ∀ a ∈ l, Logs (g a)) :
    Logs (l.forM g) := by
  induction l with
  | nil => exact of_same fun _ => rfl
  | cons a rest ih =>
    obtain ⟨ha, hrest⟩ := List.forall_mem_cons.mp hg
    exact ha.bind fun _ => ih hrest

end Logs

/-- What is recorded when permissions are loaded tells of no status. -/
theorem routine_of_mem_loadRecords {p : Permissions} {x : Record} (h : x ∈ loadRecords p) :
    x.Routine := by
  have hsilent : x.Silent := by
    simp only [loadRecords, List.mem_cons, List.not_mem_nil, or_false] at h
    rcases h with rfl | rfl
    · exact ⟨Record.heard_plain _ _ (by decide) ⟨rfl, rfl, by simp⟩, fun status hstatus => by
        cases (Record.carries_iff.mp hstatus).2⟩
    · exact ⟨Record.heard_plain _ _ (by decide) ⟨rfl, rfl, by simp⟩, fun status hstatus => by
        cases (Record.carries_iff.mp hstatus).2⟩
  exact hsilent.routine

theorem logs_evaluate (context : Context) (resources : List Resource) :
    Logs (evaluate context resources : Part σ ActionBar) := by
  have hload : Logs (loadBar context.permissions : Part σ ActionBar) :=
    (Logs.get _).bind fun _ => (Logs.forM fun r hr => .log (routine_of_mem_loadRecords hr)).bind
      fun _ => .of_same fun _ => rfl
  exact hload.bind fun _ => .get _

theorem trails_evaluate (context : Context) (resources : List Resource) :
    Trails (evaluate context resources : Part σ ActionBar) := by
  have hforM (l : List Record) : Trails (l.forM log : Part σ PUnit) := by
    induction l with
    | nil => exact .pure _
    | cons r rest ih => exact (Trails.log r).bind fun _ => ih
  exact ((Trails.get _).bind fun _ => (hforM _).bind fun _ => .pure _).bind fun _ => .get _

/-- The server after it has listed its resources for a command. -/
def serverAfterListing (around : Surroundings σ) (context : Context) (server : σ) : σ :=
  match Client.start context.settings.server server around.reading with
  | .error _ => server
  | .ok client => (client.call (Client.listResources around.transport
      (Settings.textOrNull context.settings.session.user))).2.wire.server

/-- Listing the resources concerns the server and what it was sent only. -/
theorem exists_run_fetchAll (around : Surroundings σ) (context : Context) (s : Session σ) :
    ∃ sent, ((fetchAll around context).run.run s).2 =
      { s with server := serverAfterListing around context s.server, sent } := by
  rw [fetchAll, serverAfterListing]
  rcases hclient : Client.start context.settings.server s.server around.reading with e | client
  · rw [run_withoutClient _ hclient]
    exact ⟨s.sent, rfl⟩
  · let user := Settings.textOrNull context.settings.session.user
    have hsubmitted : (client.call (Client.listResources around.transport user)).2.submitted =
        client.submitted :=
      Client.keeps_submitted_listResources user client
    have hrecords : (client.call (Client.listResources around.transport user)).2.records =
        client.records :=
      Client.keeps_listResources (fun _ _ => rfl) (fun _ _ => rfl) user client
    rw [(Client.empty_of_start hclient).1] at hsubmitted
    rw [Client.records_of_start hclient] at hrecords
    rw [run_withClient _ hclient, hsubmitted, hrecords, List.append_nil]
    exact ⟨_, rfl⟩

/-- What comes after a part and concerns the trail only leaves the rest as the part has left it. -/
theorem exists_logAll_bind {x : Part σ α} {g : α → Part σ β} (htrails : ∀ a, Trails (g a))
    (hlogs : ∀ a, Logs (g a)) (s : Session σ) :
    ∃ new, ((x >>= g).run.run s).2 =
      { (x.run.run s).2 with trail := (x.run.run s).2.trail.logAll new } ∧
        ∀ r ∈ new, r.Routine := by
  rw [run_bind]
  rcases x.run.run s with ⟨stop | a, s'⟩
  · exact ⟨[], rfl, fun _ hr => absurd hr List.not_mem_nil⟩
  · obtain ⟨trail, htrail⟩ := htrails a s'
    obtain ⟨new, hnew, hroutine⟩ := hlogs a s'
    have htrail' : trail = s'.trail.logAll new := by rw [← hnew, htrail]
    exact ⟨new, htrail.trans (by rw [htrail']), hroutine⟩

/-- Asking the bar logs what is routine, once the server has listed its resources. -/
theorem exists_run_checkAllowed (around : Surroundings σ) (context : Context) (a : RowAction)
    (names : List String) (s : Session σ) :
    ∃ sent new, ((checkAllowed around context a names).run.run s).2 = { s with
        server := serverAfterListing around context s.server
        sent
        trail := s.trail.logAll new } ∧ ∀ r ∈ new, r.Routine := by
  let ask (resources : List Resource) : Part σ Unit := do
    let bar ← evaluate context resources
    if bar.states.get (.action a) ≠ .enabled then
      let shown := ", ".intercalate names
      fail (.refused s!"{a.endpoint} is not allowed for {shown} (use --force to send anyway)")
  have hparts : checkAllowed around context a names =
      fetchAll around context >>= fun l => get (pick l names) >>= ask := by
    rw [checkAllowed, fetch, bind_assoc]
  have htrails (resources : List Resource) : Trails (ask resources) := by
    refine (trails_evaluate context resources).bind fun bar => ?_
    split
    · exact fun s => ⟨s.trail, rfl⟩
    · exact .pure _
  have hlogs (resources : List Resource) : Logs (ask resources) := by
    refine (logs_evaluate context resources).bind fun bar => ?_
    split
    · exact .of_same fun _ => rfl
    · exact .of_same fun _ => rfl
  obtain ⟨sent, hfetch⟩ := exists_run_fetchAll around context s
  obtain ⟨new, hnew, hroutine⟩ := exists_logAll_bind (x := fetchAll around context)
    (fun l => (Trails.get (pick l names)).bind htrails)
    (fun l => (Logs.get (pick l names)).bind hlogs) s
  refine ⟨sent, new, ?_, hroutine⟩
  rw [hparts, hnew, hfetch]

/-- Between the two sessions only what is routine was logged, and of every action that was submitted
by the client for the server in this state both records were left, that of an answer if there is
one. -/
def Reports (around : Surroundings σ) (settings : ServerSettings) (server : σ)
    (s s' : Session σ) : Prop :=
  ∃ new, s'.trail = s.trail.logAll new ∧ (∀ x ∈ new, x.Routine) ∧
    ∀ r ∈ s'.submitted, ∃ c, Client.start settings server around.reading = .ok c ∧
      Client.dispatching r ∈ new ∧
        ∀ reply, c.answer? around.transport r = some reply → Client.answered r reply ∈ new

namespace Reports

variable {settings : ServerSettings} {s' s'' : Session σ} {new : List Record}

theorem of_submitted_nil (htrail : s'.trail = s.trail.logAll new) (hroutine : ∀ x ∈ new, x.Routine)
    (h : s'.submitted = []) : Reports around settings server s s' :=
  ⟨new, htrail, hroutine, fun r hr => by rw [h] at hr; cases hr⟩

/-- What was logged before is no matter. -/
theorem of_logAll (htrail : s'.trail = s.trail.logAll new) (hroutine : ∀ x ∈ new, x.Routine)
    (h : Reports around settings server s' s'') : Reports around settings server s s'' := by
  obtain ⟨new', htrail', hroutine', htold⟩ := h
  refine ⟨new ++ new', ?_, fun x hx => (List.mem_append.mp hx).elim (hroutine x) (hroutine' x),
    fun r hr => ?_⟩
  · rw [htrail', htrail, Audit.Trail.logAll_append]
  · obtain ⟨c, hc, hdispatching, hanswered⟩ := htold r hr
    exact ⟨c, hc, List.mem_append_right _ hdispatching, fun reply hreply =>
      List.mem_append_right _ (hanswered reply hreply)⟩

end Reports

/-- Submitting an action is up to the client; only what is printed comes after it. -/
theorem exists_run_sendAction (around : Surroundings σ) (context : Context) (a : RowAction)
    (names : List String) (s : Session σ) :
    ∃ printed, ((sendAction around context a names).run.run s).2 =
      { ((withClient around.reading context.settings.server
        (Client.dispatch around.transport a.capability
          (some { checked := names }))).run.run s).2 with printed } := by
  rw [sendAction, run_bind]
  rcases (withClient around.reading context.settings.server
    (Client.dispatch around.transport a.capability
      (some { checked := names }))).run.run s with ⟨stop | r, s'⟩
  · exact ⟨s'.printed, rfl⟩
  · exact exists_run_put _ _ s'

theorem reports_sendAction (around : Surroundings σ) (context : Context) (a : RowAction)
    (names : List String) (h : s.submitted = []) :
    Reports around context.settings.server s.server s
      ((sendAction around context a names).run.run s).2 := by
  let action : Client.Call σ (Option ActionRequest) :=
    Client.dispatch around.transport a.capability (some { checked := names })
  have hselection := ActionRequest.ofSelection_checked a names
  obtain ⟨printed, hrun⟩ := exists_run_sendAction around context a names s
  rw [hrun]
  rcases hclient : Client.start context.settings.server s.server around.reading with e | c
  · rw [run_withoutClient _ hclient]
    exact .of_submitted_nil rfl (fun _ hx => absurd hx List.not_mem_nil) h
  · have hsubmitted : (c.call action).2.submitted =
        c.submitted ++ (ActionRequest.ofChecked a names).toList :=
      Client.submitted_dispatch hselection c
    have hleaves : Client.Leaves Client.Entry action := Client.leaves_dispatch _ _
    obtain ⟨left, hleft, hentries⟩ := hleaves c
    rw [Client.records_of_start hclient, List.nil_append] at hleft
    rw [(Client.empty_of_start hclient).1, List.nil_append] at hsubmitted
    rw [run_withClient _ hclient]
    refine ⟨(c.call action).2.records, rfl, fun x hx => ?_, fun r hr => ⟨c, hclient, ?_⟩⟩
    · exact (hentries x (hleft ▸ hx)).routine
    · have hr : r ∈ s.submitted ++ (c.call action).2.submitted := hr
      rw [h, hsubmitted, List.nil_append, Option.mem_toList] at hr
      rw [hr] at hselection
      obtain ⟨asked, -, hrecords⟩ := Client.records_dispatch hselection around.transport c
      have hrecords : (c.call action).2.records = _ := hrecords
      rw [hrecords]
      refine ⟨by simp, fun reply hreply => ?_⟩
      rw [hreply]
      simp

/-- A run of the command that dispatches. -/
theorem reports_runDispatch (around : Surroundings σ) (context : Context) (word : String)
    (names : List String) (force : Bool) (h : s.submitted = []) :
    Reports around context.settings.server
      (if force then s.server else serverAfterListing around context s.server) s
      ((runDispatch around context word names force).run.run s).2 := by
  rw [runDispatch, run_bind]
  rcases readAction word with e | a
  · exact .of_submitted_nil rfl (fun _ hx => absurd hx List.not_mem_nil) h
  · cases force with
    | true => exact reports_sendAction around context a names h
    | false =>
      obtain ⟨sent, new, hcheck, hroutine⟩ := exists_run_checkAllowed around context a names s
      change Reports around context.settings.server (serverAfterListing around context s.server) s
        ((checkAllowed around context a names >>= fun _ =>
          sendAction around context a names).run.run s).2
      rw [run_bind]
      rcases hrun : (checkAllowed around context a names).run.run s with ⟨stop | _, s'⟩ <;>
        rw [hrun] at hcheck <;> obtain rfl : s' = _ := hcheck
      · exact .of_submitted_nil rfl hroutine h
      · exact .of_logAll rfl hroutine (reports_sendAction around context a names h)

theorem run_openTrail (around : Surroundings σ) (level : String) (settings : Settings)
    (name : CommandName) (s : Session σ) :
    let after := s.trail.configure around.environment (.text level) settings.logging.logDir
      (name != .desk)
    (openTrail around level settings name).run.run s =
      (after.2.mapError .failed, { s with trail := after.1 }) := by
  rw [openTrail, run_bind, run_getThe]
  dsimp only
  rw [run_bind, run_set]
  dsimp only
  rw [run_get]

/-- Where a command is prepared, a log is open and nothing is written to it yet. -/
theorem exists_opened_of_prepare {general : General} {name : CommandName} {trail : Audit.Trail}
    (h : (prepare around general name).run.run { server } = (.ok context, { server, trail })) :
    ∃ place, trail.Opened place ∧ trail.entries place = [] := by
  obtain ⟨settings, s₁, hload, h⟩ := exists_of_run_bind h
  obtain ⟨_, s₂, hopen, h⟩ := exists_of_run_bind h
  have hs₁ : s₁ = { server } := by
    rw [run_get] at hload
    exact (Prod.mk.inj hload).2.symm
  -- the grants do not concern the session
  have hs₂ : s₂.trail = trail := by
    split at h
    · cases h
      rfl
    · rcases hgrants : readGrants general.grants with e | grants <;> rw [hgrants] at h <;> cases h
      rfl
  obtain ⟨houtcome, hafter⟩ := Prod.mk.inj ((run_openTrail _ _ _ _ _).symm.trans hopen)
  rw [hs₁] at houtcome hafter
  have hconfigured : ∀ after : Audit.Trail × Except Failure Unit,
      after.2.mapError Stop.failed = .ok ⟨⟩ → after = (after.1, .ok ⟨⟩) := by
    rintro ⟨trail, e | _⟩ h
    · cases h
    · rfl
  obtain ⟨place, hopened, hentries⟩ :=
    Audit.Trail.exists_opened_of_configure (hconfigured _ houtcome)
  rw [← hs₂, ← hafter]
  exact ⟨place, hopened, hentries⟩

/-- However a run ends, its trail and what it has submitted are those of its parts. -/
theorem session_run (around : Surroundings σ) (server : σ) (arguments : List String) :
    (run around server arguments).session.trail =
        ((runAll around arguments).run.run { server }).2.trail ∧
      (run around server arguments).session.submitted =
        ((runAll around arguments).run.run { server }).2.submitted := by
  rw [run]
  rcases (runAll around arguments).run.run { server } with ⟨(_ | _ | cause) | _, s⟩
  · exact ⟨rfl, rfl⟩
  · exact ⟨rfl, rfl⟩
  · dsimp only [Stop.ending]
    split
    · split
      · exact ⟨rfl, rfl⟩
      · exact ⟨rfl, rfl⟩
    · exact ⟨rfl, rfl⟩
  · exact ⟨rfl, rfl⟩

/-- What the trail tells after a run of the command that dispatches. -/
theorem Accepted.tells {word : String} {force : Bool}
    (h : Accepted around server arguments context (.dispatch word names force)) :
    ∃ place, (run around server arguments).session.trail.Opened place ∧
      Quiet (run around server arguments).session.trail.level
        ((run around server arguments).session.trail.entries place) ∧
      ∀ r ∈ (run around server arguments).session.submitted, ∃ c,
        Client.start context.settings.server
            (if force then server else serverAfterListing around context server) around.reading =
              .ok c ∧
          Tells (run around server arguments).session.trail.level
            ((run around server arguments).session.trail.entries place) r
            (c.answer? around.transport r) := by
  obtain ⟨general, name, rest, trail, -, hprepare, hrun⟩ := h.exists_prepared
  obtain ⟨place, hopened, hempty⟩ := exists_opened_of_prepare hprepare
  let s : Session σ := { server, trail }
  obtain ⟨new, hnew, hroutine, htold⟩ :=
    reports_runDispatch (s := s) around context word names force rfl
  have hrun : (runAll around arguments).run.run { server } =
      (runDispatch around context word names force).run.run s := hrun
  obtain ⟨htrail, hsubmitted⟩ := session_run around server arguments
  rw [hrun] at htrail hsubmitted
  rw [hnew] at htrail
  have hlogged : (run around server arguments).session.trail = trail.logAll new := htrail
  obtain ⟨hopened', hlevel, hentries⟩ :=
    Audit.Trail.entries_logAll hopened fun x hx => (hroutine x hx).heard
  rw [hempty, List.nil_append] at hentries
  refine ⟨place, ?_⟩
  rw [hlogged, hlevel, hentries, hsubmitted]
  refine ⟨hopened', Audit.quiet_of_routine hroutine, fun r hr => ?_⟩
  obtain ⟨c, hc, hdispatching, hanswered⟩ := htold r hr
  exact ⟨c, hc, Audit.tells_of_mem hroutine hdispatching hanswered⟩

end Command

/-! ### The desk -/

/-- However a client was asked, it has only left records of its own kinds, after those that it had
left before. -/
theorem Client.Contacted.exists_records {σ : Type} {c c' : Client σ} (h : c.Contacted c') :
    ∃ new, c'.records = c.records ++ new ∧ ∀ x ∈ new, Client.Entry x := by
  have hnext {α : Type} {c' : Client σ} {x : Client.Call σ α} (hx : Client.Leaves Client.Entry x)
      (ih : ∃ new, c'.records = c.records ++ new ∧ ∀ x ∈ new, Client.Entry x) :
      ∃ new, (c'.call x).2.records = c.records ++ new ∧ ∀ x ∈ new, Client.Entry x := by
    obtain ⟨new, hnew, hentries⟩ := ih
    obtain ⟨new', hnew', hentries'⟩ := hx c'
    refine ⟨new ++ new', by rw [hnew', hnew, List.append_assoc], fun x hx => ?_⟩
    exact (List.mem_append.mp hx).elim (hentries x) (hentries' x)
  induction h with
  | refl => exact ⟨[], (List.append_nil _).symm, fun _ hx => absurd hx List.not_mem_nil⟩
  | list _ transport user ih =>
    exact hnext (.of_keeps (Client.keeps_listResources (fun _ _ => rfl) (fun _ _ => rfl) user)) ih
  | noteForm _ transport name ih =>
    exact hnext (.of_keeps (Client.keeps_fetchNoteForm (fun _ _ => rfl) name)) ih
  | saveNote _ transport name note ih => exact hnext (Client.leaves_saveNote name note) ih
  | dispatch _ transport capability source ih =>
    exact hnext (Client.leaves_dispatch capability source) ih

namespace Desk

variable {σ : Type} {transport : Http.Transport σ} {files : Files} {d d' : Desk σ} {a : RowAction}

/-- A button that can be clicked dispatches its action. -/
theorem contacted_step_press (hopen : d.closed = false) (hclick : d.clickable (.action a) = true)
    (h : d.step transport files (.press (.action a)) = .ok d') :
    Client.Contacted (d.client.call (Client.dispatch transport a.capability d.source)).2
      d'.client := by
  rcases of_step h with ⟨hclosed, -⟩ | ⟨-, h⟩
  · exact absurd hclosed (by simp [hopen])
  · have h : d.press transport (.action a) = .ok d' := h
    rw [press, if_pos hclick] at h
    exact contacted_dispatch h

/-- What a journal tells of an action that was dispatched at a desk, if it has all that the client
has left since the launch, and nothing else that tells of a status. -/
theorem tells_of_dispatch {launch : Launch} {r : ActionRequest} (hreachable : Reachable launch d)
    (hr : ActionRequest.ofChecked a d.rows.checkedNames = some r) {later : Client σ}
    {journal : List Record}
    (hlater : Client.Contacted (d.client.call (Client.dispatch transport a.capability d.source)).2
      later)
    (hjournal : ∀ x ∈ later.records, x ∈ journal)
    (hothers : ∀ x ∈ journal, x ∈ later.records ∨ x.Silent) {t : Audit.Trail}
    {place : List String} (hopened : t.Opened place) (hempty : t.entries place = []) :
    Tells t.level ((t.logAll journal).entries place) r (d.client.answer? transport r) ∧
      Quiet t.level ((t.logAll journal).entries place) := by
  have hselection : ActionRequest.ofSelection a.capability d.source = .ok (some r) :=
    hr ▸ ActionRequest.ofSelection_checked a d.rows.checkedNames
  obtain ⟨asked, -, hrecords⟩ := Client.records_dispatch hselection transport d.client
  obtain ⟨since, hsince, -⟩ := hlater.exists_records
  -- everything that the client has left since the launch is of its own kinds
  obtain ⟨server, client, hclient, hcontacted⟩ := hreachable.contacted
  obtain ⟨all, hall, hentries⟩ :=
    ((hcontacted.dispatch transport a.capability d.source).trans hlater).exists_records
  rw [Client.records_of_start hclient, List.nil_append] at hall
  have hroutine : ∀ x ∈ journal, x.Routine := fun x hx => by
    rcases hothers x hx with hx | hsilent
    · exact (hentries x (hall ▸ hx)).routine
    · exact hsilent.routine
  have hdispatching : Client.dispatching r ∈ journal := by
    refine hjournal _ ?_
    rw [hsince, hrecords]
    simp
  have hanswered (reply : Http.Reply) (hreply : d.client.answer? transport r = some reply) :
      Client.answered r reply ∈ journal := by
    refine hjournal _ ?_
    rw [hsince, hrecords, hreply]
    simp
  obtain ⟨-, -, hfile⟩ := Audit.Trail.entries_logAll hopened fun x hx => (hroutine x hx).heard
  rw [hfile, hempty, List.nil_append]
  exact ⟨Audit.tells_of_mem hroutine hdispatching hanswered, Audit.quiet_of_routine hroutine⟩

end Desk

/-! ### What the trail tells -/

/-- **The trail tells of a status for debugging only.** After a run of the command that dispatches,
a log is open, and for every action that was submitted an entry with the action and all its
resources was written to it, at the level of information and below. An entry with the action, its
page and the status of the final answer was written too, if one came back, exactly at the level of
debugging and below; otherwise no entry has a status at all. The same goes for every action that is
dispatched at a desk, whatever the user does afterwards, once the records of its client are
logged. -/
theorem Audit.status_told_iff_debugging {σ : Type} :
    (∀ (around : Command.Surroundings σ) (server : σ) (arguments : List String)
        (context : Command.Context) (word : String) (names : List String) (force : Bool),
      Command.Accepted around server arguments context (.dispatch word names force) →
        let session := (Command.run around server arguments).session
        ∃ place, session.trail.Opened place ∧
          Quiet session.trail.level (session.trail.entries place) ∧
          ∀ r ∈ session.submitted, ∃ c, Client.start context.settings.server
              (if force then server else Command.serverAfterListing around context server)
              around.reading = .ok c ∧
            Tells session.trail.level (session.trail.entries place) r
              (c.answer? around.transport r)) ∧
    ∀ (launch : Desk.Launch) (d : Desk σ) (transport : Http.Transport σ) (a : RowAction)
        (r : ActionRequest),
      Desk.Reachable launch d → ActionRequest.ofChecked a d.rows.checkedNames = some r →
      let dispatched := (d.client.call (Client.dispatch transport a.capability d.source)).2
      (∀ files d' d'', d.closed = false → d.clickable (.action a) = true →
        d.step transport files (.press (.action a)) = .ok d' → Desk.Leads d' d'' →
          dispatched.Contacted d''.client) ∧
      ∀ (later : Client σ) (t : Trail) (place : List String) (journal : List Record),
        dispatched.Contacted later → t.Opened place → t.entries place = [] →
        (∀ x ∈ later.records, x ∈ journal) →
        (∀ x ∈ journal, x ∈ later.records ∨ x.Silent) →
          Tells t.level ((t.logAll journal).entries place) r (d.client.answer? transport r) ∧
            Quiet t.level ((t.logAll journal).entries place) := by
  refine ⟨fun around server arguments context word names force h => h.tells,
    fun launch d transport a r hreachable hr => ⟨?_, ?_⟩⟩
  · intro files d' d'' hopen hclick hstep hleads
    exact (Desk.contacted_step_press hopen hclick hstep).trans hleads.contacted
  · intro later t place journal hlater hopened hempty hjournal hothers
    exact Desk.tells_of_dispatch hreachable hr hlater hjournal hothers hopened hempty

/-- A command that dispatches an action without asking, for a server that takes it. -/
def unlocking (level : String) : Command.Surroundings Unit where
  environment := []
  files := Files.ofTexts [("lockdesk.yml",
    "server:\n  base_url: http://ci\nlogging:\n  level: " ++ level ++ "\n")]
  transport := fun r server =>
    let reply : Http.Reply := {
      status := if r.method = .get then 404 else 200
      status_lt := by split <;> decide }
    (.ok reply, server)

/-- The arguments of that command. -/
def unlockArguments : List String :=
  ["-c", "lockdesk.yml", "dispatch", "--force", "unlock", "printer"]

/-- Whether the command submits one action with this level, and its client is answered that all is
well. -/
def unlocks (around : Command.Surroundings Unit) (level : Audit.Level) : Bool :=
  match (Command.prepare around { config := some "lockdesk.yml" } .dispatch).run.run
      { server := () } with
  | (.ok context, _) =>
    let session := (Command.run around () unlockArguments).session
    match Client.start context.settings.server (), session.submitted with
    | .ok c, [r] =>
      session.trail.level = level && r.action = .unlock &&
        (c.answer? around.transport r).map Http.Reply.status = some 200
    | _, _ => false
  | _ => false

theorem exists_unlocking (word : String) (level : Audit.Level)
    (h : unlocks (unlocking word) level = true) :
    ∃ context r c reply, Command.Accepted (unlocking word) () unlockArguments context
        (.dispatch "unlock" ["printer"] true) ∧
      Client.start context.settings.server () = .ok c ∧
      c.answer? (unlocking word).transport r = some reply ∧
      r.action = .unlock ∧ reply.status = 200 ∧
      let session := (Command.run (unlocking word) () unlockArguments).session
      session.submitted = [r] ∧ session.trail.level = level := by
  rw [unlocks] at h
  split at h
  · next context s hprepare =>
    dsimp only at h
    split at h
    · next c r hclient hsubmitted =>
      simp only [Bool.and_eq_true, decide_eq_true_eq] at h
      obtain ⟨⟨hlevel, haction⟩, hanswer⟩ := h
      obtain ⟨reply, hreply, hstatus⟩ := Option.map_eq_some_iff.mp hanswer
      exact ⟨context, r, c, reply, ⟨{ config := some "lockdesk.yml" }, .dispatch,
        ["--force", "unlock", "printer"], s, by decide +kernel, hprepare, by decide +kernel⟩,
        hclient, hreply, haction, hstatus, hsubmitted, hlevel⟩
    · cases h
  · cases h

/-- A server with a board, which takes every action and issues no crumb. -/
def withBoard : Http.Transport Unit := fun r server =>
  let listing := "\x7b\"resources\": [\x7b\"name\": \"board\"\x7d]\x7d"
  let issuer := r.url.path = "/crumbIssuer/api/json"
  let reply : Http.Reply := {
    status := if issuer then 404 else 200
    status_lt := by split <;> decide
    body := Utf8.encode listing.toList }
  (.ok reply, server)

/-- For debugging both the command and the desk tell of the status. -/
theorem Audit.status_told_iff_debugging_unlock_reserve :
    (∃ context, Command.Accepted (unlocking "DEBUG") () unlockArguments context
        (.dispatch "unlock" ["printer"] true) ∧
      let session := (Command.run (unlocking "DEBUG") () unlockArguments).session
      ∃ place, ∃ x ∈ session.trail.entries place,
        x.Carries "action" (.text "unlock") ∧ x.Carries "status" (.int 200)) ∧
    ∃ (launch : Desk.Launch) (d : Desk Unit), Desk.Reachable launch d ∧
      d.rows.checkedNames = ["board"] ∧
      let dispatched := (d.client.call (Client.dispatch withBoard .reserve d.source)).2
      let t : Trail :=
        { level := Level.debug, openFile := some ["logs"], files := [(["logs"], [])] }
      ∃ x ∈ (t.logAll dispatched.records).entries ["logs"],
        x.Carries "action" (.text "reserve") ∧ x.Carries "status" (.int 200) := by
  obtain ⟨hcommand, hdesk⟩ := Audit.status_told_iff_debugging (σ := Unit)
  constructor
  · obtain ⟨context, r, c, reply, haccepted, hclient, hreply, haction, hstatus, hsubmitted,
      hlevel⟩ := exists_unlocking "DEBUG" Level.debug (by decide +kernel)
    obtain ⟨place, -, -, htold⟩ := hcommand _ _ _ _ _ _ _ haccepted
    obtain ⟨c', hc', htells⟩ := htold r (hsubmitted ▸ List.mem_singleton_self r)
    cases hclient.symm.trans hc'
    obtain ⟨x, hx, hcarries, -, hcarries'⟩ :=
      (htells.status reply hreply).mpr (Int.le_of_eq hlevel)
    rw [haction] at hcarries
    rw [hstatus] at hcarries'
    exact ⟨context, haccepted, place, x, hx, hcarries, hcarries'⟩
  · let launch : Desk.Launch := {
      settings := { server := { baseUrl := "http://ci" } }
      grants := some (.object [("RESERVE", .bool true)]) }
    let r : ActionRequest := ⟨.reserve, ["board"], by decide⟩
    have hrun : (do
        let d ← Desk.start withBoard launch ()
        let d ← d.step withBoard {} (.check 0 true)
        return (d.rows.checkedNames, (d.client.answer? withBoard r).map Http.Reply.status) :
          Except Failure _) = .ok (["board"], some 200) := by
      decide +kernel
    obtain ⟨d₀, hstart, hrun⟩ := exists_of_bind_eq_ok hrun
    obtain ⟨d, hstep, hrun⟩ := exists_of_bind_eq_ok hrun
    obtain ⟨hnames, hanswer⟩ := Prod.mk.inj (Except.ok.inj hrun)
    obtain ⟨reply, hreply, hstatus⟩ := Option.map_eq_some_iff.mp hanswer
    have hreachable : Desk.Reachable launch d := ⟨_, (), d₀, hstart, Desk.Leads.refl.step hstep⟩
    have hr : ActionRequest.ofChecked .reserve d.rows.checkedNames = some r := by
      rw [hnames]
      decide +kernel
    obtain ⟨-, htold⟩ := hdesk launch d withBoard .reserve r hreachable hr
    let t : Trail := { level := Level.debug, openFile := some ["logs"], files := [(["logs"], [])] }
    have hopened : t.Opened ["logs"] := ⟨rfl, rfl⟩
    obtain ⟨htells, -⟩ := htold _ t ["logs"] _ .refl hopened rfl (fun _ hx => hx) fun _ => .inl
    obtain ⟨x, hx, hcarries, -, hcarries'⟩ := (htells.status reply hreply).mpr (Int.le_refl _)
    rw [hstatus] at hcarries'
    exact ⟨launch, d, hreachable, hnames, x, hx, hcarries, hcarries'⟩

/-- At the level of information the action is submitted and answered, but **no entry tells of the
status**. -/
theorem Audit.status_missing_at_info :
    ∃ context r c reply, Command.Accepted (unlocking "INFO") () unlockArguments context
        (.dispatch "unlock" ["printer"] true) ∧
      Client.start context.settings.server () = .ok c ∧
      c.answer? (unlocking "INFO").transport r = some reply ∧
      let session := (Command.run (unlocking "INFO") () unlockArguments).session
      session.submitted = [r] ∧ session.trail.level = Level.info ∧
        ∀ place, ∀ x ∈ session.trail.entries place, ∀ status, ¬x.Carries "status" status := by
  obtain ⟨context, r, c, reply, haccepted, hclient, hreply, -, -, hsubmitted, hlevel⟩ :=
    exists_unlocking "INFO" Level.info (by decide +kernel)
  refine ⟨context, r, c, reply, haccepted, hclient, hreply, hsubmitted, hlevel, ?_⟩
  intro place x hx status hstatus
  have hnone : ((Command.run (unlocking "INFO") () unlockArguments).session.trail.files.all fun f =>
      f.2.all fun x => "status" ∉ x.context.map Prod.fst) = true := by
    decide +kernel
  rw [Audit.Trail.entries] at hx
  rcases hfind : Keyed.find? place
      (Command.run (unlocking "INFO") () unlockArguments).session.trail.files with _ | records <;>
    rw [hfind] at hx
  · cases hx
  · have hrecords := List.all_eq_true.mp hnone _ (Keyed.mem_of_find? hfind)
    have hkey := of_decide_eq_true (List.all_eq_true.mp hrecords x hx)
    exact hkey (List.mem_map_of_mem hstatus)

end Lockable
