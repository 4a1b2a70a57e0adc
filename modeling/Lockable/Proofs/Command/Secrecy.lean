import Mathlib.Control.Monad.Basic
import Lockable.Proofs.Command.Part
import Lockable.Proofs.Secrecy

/-!
# The token on the command line

Two runs of one command line, with configurations that come to the same settings but for the
**token**: what is printed, the audit trail, the status and the failure that breaks a run off are
the same, and the requests differ at most in their authorization (`Command.token_does_not_leak`).
The desk is left out, since it is launched with the settings as they are.

Every part of a run is shown to agree with itself on sessions that have come apart only in what was
sent (`Session.Alike`).
-/

namespace Lockable

/-- The settings without the token. -/
def Settings.withoutToken (s : Settings) : Settings := { s with server := s.server.withoutToken }

namespace Command

variable {σ α β : Type} {transport : Http.Transport σ}

/-- The sessions agree but for the authorization of what was sent. -/
structure Session.Alike (transport : Http.Transport σ) (s s' : Session σ) : Prop where
  server : Http.Alike transport s.server s'.server
  sent : s.sent.map Http.Request.unauthorized = s'.sent.map Http.Request.unauthorized
  submitted : s.submitted = s'.submitted
  trail : s.trail = s'.trail
  printed : s.printed = s'.printed

/-- The contexts agree but for the token. -/
structure Context.Alike (context context' : Context) : Prop where
  settings : context.settings.withoutToken = context'.settings.withoutToken
  permissions : context.permissions = context'.permissions

/-! ### Parts -/

theorem agree_get {R : α → β → Prop} {x : Except Failure α} {y : Except Failure β}
    (h : SameOutcome R x y) : Agree (Session.Alike transport) R (get x) (get y) := by
  cases h with
  | ok h => exact .pure h
  | error e => exact .throw _

theorem agree_getReported (x : Except Failure α) :
    Agree (Session.Alike transport) Eq (getReported x) (getReported x) := by
  cases x with
  | ok a => exact .pure rfl
  | error e => exact .throw _

theorem agree_put (console : Marks) (p : Printed) :
    Agree (Session.Alike transport) Eq (put console p) (put console p) :=
  (agree_get (.refl _)).bind_eq fun _ =>
    .modify fun _ _ h => { h with printed := by rw [h.printed] }

theorem agree_log (r : Audit.Record) : Agree (Session.Alike transport) Eq (log r) (log r) :=
  .modify fun _ _ h => { h with trail := by rw [h.trail] }

/-- New clients whose settings agree do something that agrees. -/
theorem agree_withClient {settings settings' : ServerSettings}
    (hsettings : settings.withoutToken = settings'.withoutToken) {action : Client.Call σ α}
    (haction : Agree (Client.Alike transport) Eq action action) :
    Agree (Session.Alike transport) Eq (withClient reading settings action)
      (withClient reading settings' action) := by
  refine Agree.get.bind fun s s' h => ?_
  refine (agree_get (Client.start_alike hsettings h.server reading)).bind fun c c' hc => ?_
  obtain ⟨hout, hclient⟩ := haction c c' hc
  dsimp only [Client.call]
  generalize action.run.run c = after at hout hclient
  generalize action.run.run c' = after' at hout hclient
  obtain ⟨outcome, client⟩ := after
  obtain ⟨outcome', client'⟩ := after'
  refine (Agree.set ?_).bind_eq fun _ => agree_get hout
  exact {
    server := hclient.wire.server
    sent := by rw [List.map_append, List.map_append, h.sent, hclient.wire.sent]
    submitted := by rw [h.submitted, hclient.submitted]
    trail := by rw [h.trail, hclient.records]
    printed := h.printed }

/-! ### The commands -/

variable {around : Surroundings σ} {files' : Files} {context context' : Context}

theorem agree_fetchAll (h : context.Alike context') :
    Agree (Session.Alike around.transport) Eq (fetchAll around context)
      (fetchAll { around with files := files' } context') := by
  have hserver : context.settings.server.withoutToken = context'.settings.server.withoutToken :=
    (Settings.mk.inj h.settings).1
  have hsession : context.settings.session = context'.settings.session :=
    (Settings.mk.inj h.settings).2.1
  rw [fetchAll, fetchAll, hsession]
  exact agree_withClient hserver (Client.agree_listResources _)

theorem agree_loadBar (permissions : List (String × Bool)) :
    Agree (Session.Alike transport) Eq (loadBar permissions) (loadBar permissions) :=
  (agree_get (.refl _)).bind_eq fun _ => (Agree.forM agree_log _).bind_eq fun _ => .pure rfl

theorem agree_fetch (h : context.Alike context') (names : List String) :
    Agree (Session.Alike around.transport) Eq (fetch around context names)
      (fetch { around with files := files' } context' names) :=
  (agree_fetchAll h).bind_eq fun _ => agree_get (.refl _)

theorem agree_evaluate (h : context.Alike context') (resources : List Resource) :
    Agree (Session.Alike transport) Eq (evaluate context resources)
      (evaluate context' resources) := by
  rw [evaluate, evaluate, h.permissions]
  exact (agree_loadBar _).bind_eq fun _ => agree_get (.refl _)

theorem agree_runResources (h : context.Alike context') :
    Agree (Session.Alike around.transport) Eq (runResources around context)
      (runResources { around with files := files' } context') := by
  refine (agree_fetchAll h).bind_eq fun resources => ?_
  rw [h.permissions]
  exact (agree_loadBar _).bind_eq fun _ => (agree_get (.refl _)).bind_eq fun _ => agree_put _ _

theorem agree_runAllowed (h : context.Alike context') (names : List String) :
    Agree (Session.Alike around.transport) Eq (runAllowed around context names)
      (runAllowed { around with files := files' } context' names) :=
  (agree_fetch h names).bind_eq fun resources => (agree_evaluate h resources).bind_eq fun _ =>
    agree_put _ _

theorem agree_runDispatch (h : context.Alike context') (word : String) (names : List String)
    (force : Bool) :
    Agree (Session.Alike around.transport) Eq (runDispatch around context word names force)
      (runDispatch { around with files := files' } context' word names force) := by
  have hserver : context.settings.server.withoutToken = context'.settings.server.withoutToken :=
    (Settings.mk.inj h.settings).1
  have hask (action : RowAction) :
      Agree (Session.Alike around.transport) Eq (checkAllowed around context action names)
        (checkAllowed { around with files := files' } context' action names) := by
    refine (agree_fetch h names).bind_eq fun resources =>
      (agree_evaluate h resources).bind_eq fun bar => ?_
    split
    · exact .throw _
    · exact .pure rfl
  have hsend (action : RowAction) :
      Agree (Session.Alike around.transport) Eq (sendAction around context action names)
        (sendAction { around with files := files' } context' action names) :=
    (agree_withClient hserver (Client.agree_dispatch _ _)).bind_eq fun _ => agree_put _ _
  refine (agree_getReported _).bind_eq fun action => ?_
  cases force with
  | true => exact hsend action
  | false => exact (hask action).bind_eq fun _ => hsend action

theorem agree_runNote (h : context.Alike context') (name text : String) :
    Agree (Session.Alike around.transport) Eq (runNote around context name text)
      (runNote { around with files := files' } context' name text) :=
  (agree_withClient (Settings.mk.inj h.settings).1 (Client.agree_saveNote name text)).bind_eq
    fun _ => agree_put _ _

/-- The configuration is shown without the token, so it is shown alike. -/
theorem agree_runShowConfig (h : context.Alike context') :
    Agree (Session.Alike around.transport) Eq (runShowConfig around context)
      (runShowConfig { around with files := files' } context') := by
  have hshown (around : Surroundings σ) (context : Context) :
      runShowConfig around context = put around.console (.json
      ({ context.settings.withoutToken with
        session := { context.settings.session with
          permissions := context.permissions } }.toJson false)) := rfl
  have hsession : context.settings.session = context'.settings.session :=
    (Settings.mk.inj h.settings).2.1
  rw [hshown, hshown, h.settings, hsession, h.permissions]
  exact agree_put _ _

theorem agree_runTask (h : context.Alike context') {task : Task} (hdesk : task ≠ .desk) :
    Agree (Session.Alike around.transport) Eq (runTask around context task)
      (runTask { around with files := files' } context' task) := by
  cases task with
  | desk => exact absurd rfl hdesk
  | resources => exact agree_runResources h
  | allowed names => exact agree_runAllowed h names
  | dispatch word names force => exact agree_runDispatch h word names force
  | note name text => exact agree_runNote h name text
  | showConfig => exact agree_runShowConfig h

/-! ### Whole runs -/

/-- What loading the configuration of a command line comes to. -/
def loaded (around : Surroundings σ) (general : General) : Except Failure Settings :=
  ((SettingsStore.forPath general.config around.environment : SettingsStore Unit).load
    around.files).2

theorem agree_openTrail {settings settings' : Settings}
    (h : settings.withoutToken = settings'.withoutToken) (level : String) (name : CommandName) :
    Agree (Session.Alike transport) Eq (openTrail around level settings name)
      (openTrail { around with files := files' } level settings' name) := by
  have hlogging : settings.logging = settings'.logging := (Settings.mk.inj h).2.2.2
  refine Agree.get.bind fun s s' hs => ?_
  dsimp only
  rw [← hs.trail, ← hlogging]
  rcases s.trail.configure around.environment (.text level) settings.logging.logDir
    (name != .desk) with ⟨trail, outcome⟩
  exact (Agree.set { hs with trail := rfl }).bind_eq fun _ => agree_get (.refl _)

theorem agree_prepare {settings settings' : Settings} {general : General}
    (hload : loaded around general = .ok settings)
    (hload' : loaded { around with files := files' } general = .ok settings')
    (h : settings.withoutToken = settings'.withoutToken) (name : CommandName) :
    Agree (Session.Alike transport) Context.Alike (prepare around general name)
      (prepare { around with files := files' } general name) := by
  have hlogging : settings.logging = settings'.logging := (Settings.mk.inj h).2.2.2
  have hsession : settings.session = settings'.session := (Settings.mk.inj h).2.1
  rw [loaded] at hload hload'
  have hget : Agree (Session.Alike transport)
      (fun s s' : Settings => s = settings ∧ s' = settings')
      (get (SettingsStore.load around.files
        (.forPath general.config around.environment : SettingsStore Unit)).2)
      (get (SettingsStore.load files'
        (.forPath general.config around.environment : SettingsStore Unit)).2) := by
    rw [hload, hload']
    exact .pure ⟨rfl, rfl⟩
  refine hget.bind ?_
  rintro _ _ ⟨rfl, rfl⟩
  rw [hlogging]
  refine (agree_openTrail h _ name).bind_eq fun _ => ?_
  split
  · exact .pure ⟨h, congrArg SessionSettings.permissions hsession⟩
  · exact (agree_getReported _).bind_eq fun _ => .pure ⟨h, rfl⟩

/-- Only the command that launches the desk asks for that. -/
theorem eq_desk_of_readTask {name : CommandName} {rest : List String}
    (h : readTask name rest = .as .desk) : name = .desk := by
  cases name with
  | desk => rfl
  | dispatch =>
    obtain ⟨o, ho⟩ := exists_of_unlessHelp h
    split at ho <;> cases ho
  | resources | allowed | note =>
    obtain ⟨o, ho⟩ := exists_of_unlessHelp h
    dsimp only at ho
    split at ho <;> cases ho
  | config =>
    have h : readConfig rest = .as .desk := h
    unfold readConfig at h
    split at h
    · obtain ⟨o, ho⟩ := exists_of_unlessHelp h
      split at ho <;> cases ho
    all_goals cases h

/-- The configurations of a command line other than that of the desk can be loaded, and come to the
same settings but for the token. -/
def DifferInToken (around : Surroundings σ) (files' : Files) (arguments : List String) : Prop :=
  ∀ general name rest, readGeneral arguments = .as (general, name, rest) →
    name ≠ .desk ∧ ∃ settings settings', loaded around general = .ok settings ∧
      loaded { around with files := files' } general = .ok settings' ∧
      settings.withoutToken = settings'.withoutToken

/-- What is understood is the same on both sides. -/
theorem agree_understand (u : Understood α) :
    Agree (Session.Alike transport) (fun a b => a = b ∧ u = .as a) (understand u)
      (understand u) := by
  cases u with
  | as value => exact .pure ⟨rfl, rfl⟩
  | help => exact .throw _
  | nonsense => exact .throw _

theorem agree_runAll {arguments : List String} (h : DifferInToken around files' arguments) :
    Agree (Session.Alike around.transport) Eq (runAll around arguments)
      (runAll { around with files := files' } arguments) := by
  refine (agree_understand _).bind ?_
  rintro ⟨general, name, rest⟩ _ ⟨rfl, hgeneral⟩
  obtain ⟨hname, settings, settings', hload, hload', hsettings⟩ := h general name rest hgeneral
  refine (agree_prepare hload hload' hsettings name).bind fun context context' hcontext => ?_
  refine (agree_understand _).bind ?_
  rintro task _ ⟨rfl, htask⟩
  have hdesk : task ≠ .desk := fun hdesk => hname (eq_desk_of_readTask (hdesk ▸ htask))
  exact agree_runTask hcontext hdesk

/-- The runs end alike, but for the authorization of what was sent. -/
structure Ending.Alike (transport : Http.Transport σ) (ending ending' : Ending σ) : Prop where
  status : ending.status = ending'.status
  broken : ending.broken = ending'.broken
  session : ending.session.Alike transport ending'.session

theorem alike_ending {s s' : Session σ} (h : s.Alike transport s') (console : Marks) (stop : Stop) :
    (stop.ending console s).Alike transport (stop.ending console s') := by
  cases stop with
  | help => exact ⟨rfl, rfl, h⟩
  | nonsense => exact ⟨rfl, rfl, h⟩
  | failed cause =>
    rw [Stop.ending, Stop.ending]
    split
    · split
      · exact ⟨rfl, rfl, { h with printed := by rw [h.printed] }⟩
      · exact ⟨rfl, rfl, h⟩
    · exact ⟨rfl, rfl, h⟩

theorem alike_run {server : σ} {arguments : List String}
    (differ : DifferInToken around files' arguments)
    (indifferent : Http.Alike around.transport server server) :
    (run around server arguments).Alike around.transport
      (run { around with files := files' } server arguments) := by
  have hstart : Session.Alike around.transport { server } { server } :=
    ⟨indifferent, rfl, rfl, rfl, rfl⟩
  obtain ⟨hout, hsession⟩ := agree_runAll differ _ _ hstart
  rw [run, run]
  revert hout hsession
  rcases (runAll around arguments).run.run { server } with ⟨outcome, s⟩
  rcases (runAll { around with files := files' } arguments).run.run { server } with ⟨outcome', s'⟩
  intro hout hsession
  obtain rfl : outcome = outcome' := hout.eq
  rcases outcome with stop | _
  · exact alike_ending hsession _ stop
  · exact ⟨rfl, rfl, hsession⟩

/-- **The token does not leak.** Two runs of one command line, with configurations that come to the
same settings but for the token, against a server whose answers do not depend on the authorization
of what it is sent: they end with the same status, broken off by the same failure if at all, print
the same and leave the same audit trail, whatever its level; and they send the same requests but for
the authorization. -/
theorem token_does_not_leak {around : Surroundings σ} {files' : Files} {server : σ}
    {arguments : List String} (differ : DifferInToken around files' arguments)
    (indifferent : Http.Alike around.transport server server) :
    let ending := run around server arguments
    let ending' := run { around with files := files' } server arguments
    ending.status = ending'.status ∧ ending.broken = ending'.broken ∧
      ending.session.printed = ending'.session.printed ∧
      ending.session.trail = ending'.session.trail ∧
      ending.session.submitted = ending'.session.submitted ∧
      ending.session.sent.map Http.Request.unauthorized =
        ending'.session.sent.map Http.Request.unauthorized := by
  have h := alike_run differ indifferent
  exact ⟨h.status, h.broken, h.session.printed, h.session.trail, h.session.submitted,
    h.session.sent⟩

/-- An action is submitted with one token and with another. The runs print the same, though what
they have sent differs. -/
theorem token_does_not_leak_dispatch :
    let signedIn (token : String) : Files := Files.ofTexts [("lockdesk.yml",
      "server:\n  base_url: http://ci\n  username: me\n  api_token: " ++ token ++ "\n")]
    let around : Surroundings Unit := {
      environment := []
      files := signedIn "one"
      transport := fun r server =>
        (.ok { status := if r.method = .get then 404 else 200, status_lt := by split <;> decide },
          server) }
    let around' := { around with files := signedIn "two" }
    let arguments := ["-c", "lockdesk.yml", "dispatch", "--force", "unlock", "printer"]
    DifferInToken around (signedIn "two") arguments ∧ Http.Alike around.transport () () ∧
      (run around () arguments).status = (run around' () arguments).status ∧
      (run around () arguments).session.printed = (run around' () arguments).session.printed ∧
      (run around () arguments).session.sent ≠ (run around' () arguments).session.sent := by
  intro signedIn around around' arguments
  have hdiffer : DifferInToken around (signedIn "two") arguments := by
    intro general name rest h
    have hgeneral : readGeneral arguments = .as ({ config := some "lockdesk.yml" }, .dispatch,
        ["--force", "unlock", "printer"]) := by
      decide +kernel
    cases hgeneral.symm.trans h
    let settings (token : String) : Settings :=
      { server := { baseUrl := "http://ci", username := some "me", apiToken := some token } }
    exact ⟨by decide, settings "one", settings "two", by decide +kernel, by decide +kernel, rfl⟩
  have hindifferent : Http.Alike around.transport () () :=
    Http.alike_of_unauthorized fun _ _ => rfl
  obtain ⟨hstatus, -, hprinted, -⟩ := token_does_not_leak hdiffer hindifferent
  exact ⟨hdiffer, hindifferent, hstatus, hprinted, by decide +kernel⟩

end Command

end Lockable
