import Lockable.Proofs.Command.Gating
import Lockable.Proofs.Desk.Reachable

/-!
# Reloading the configuration

A desk that the command line launches is handed the permissions in effect as **its own grants**,
which take precedence over those of every configuration. No act takes them away (`Desk.Granting`),
so a reload shows that it was carried out: settings are taken over, the selection is cleared and the
bar goes back to the baseline, but to the baseline of the permissions at the launch. Those of the
new configuration are in effect only if they come to the same.
-/

namespace Lockable

/-! ### Launching -/

namespace Command

variable {σ : Type}

/-- The desk is launched, whatever console there is, if there is a client for the address. -/
theorem ends_runDesk {context : Context} {s : Session σ} {client : Client σ}
    (around : Surroundings σ)
    (h : Client.start context.settings.server s.server around.reading = .ok client) :
    Ends (runDesk around context) s (.ok ⟨⟩) []
      [.desk (launch around context) s.trail.handlers] := by
  have hstart : Ends (get (Client.start context.settings.server s.server around.reading)) s
      (.ok client) [] [] :=
    h ▸ Ends.get _
  have hfits : (Printed.desk (launch around context) s.trail.handlers).Fits around.console :=
    nofun
  have hself : Ends (getThe (Session σ) : Part σ (Session σ)) s (.ok s) [] [] :=
    .of_trails (fun s => ⟨s.trail, rfl⟩) rfl
  exact hself.bind (hstart.bind (.put hfits))

/-- The command line launches a desk for its context, if there is a client for the address. -/
theorem Accepted.exists_printed_desk {around : Surroundings σ} {server : σ}
    {arguments : List String} {context : Context} {client : Client σ}
    (h : Accepted around server arguments context .desk)
    (hclient : Client.start context.settings.server server around.reading = .ok client) :
    ∃ handlers, (run around server arguments).session.printed =
      [.desk (launch around context) handlers] := by
  obtain ⟨s, hs, hends⟩ := h.exists_session
  exact ⟨_, (hends _ _ _ (ends_runDesk around (hs ▸ hclient))).2 rfl⟩

end Command

namespace Desk

variable {σ : Type} {transport : Http.Transport σ} {files : Files} {d d' : Desk σ}
  {launch : Launch} {settings : Settings} {grants : List (String × Bool)}

/-! ### Grants that take precedence -/

/-- The desk has grants of its own, and is told when its settings are loaded anew. -/
structure Granting (grants : List (String × Bool)) (d : Desk σ) : Prop where
  grants : d.grants = some (Settings.permissionMapping grants)
  store : ∃ store, d.store = some store ∧ store.watchers ≠ []

namespace Granting

theorem derive (h : Granting grants d) :
    Permissions.derive d.grantMapping = .ok (.ofSettings grants) := by
  rw [grantMapping, h.grants, Option.getD_some, Permissions.derive_permissionMapping]

theorem of_eq (h : Granting grants d) (hgrants : d'.grants = d.grants)
    (hstore : d'.store = d.store) : Granting grants d' :=
  ⟨hgrants.trans h.grants, hstore ▸ h.store⟩

end Granting

/-- The desk right after a reload: the settings are those that were read, nothing is selected, and
the bar is at the baseline of the permissions of the grants. -/
structure Reloaded (settings : Settings) (p : Permissions) (d : Desk σ) : Prop where
  settings : d.settings = settings
  permissions : d.bar.permissions = p
  unchecked : d.rows.checkedNames = []
  states : ∀ b, d.bar.states.get b = ActionBar.baseline p b

/-- New settings are taken over, and the grants stay. -/
theorem reloaded_takeOver (h : Granting grants d) (settings : Settings) :
    Reloaded settings (.ofSettings grants) (d.takeOver settings) ∧
      Granting grants (d.takeOver settings) := by
  have hd : Granting grants { d with settings } := h.of_eq rfl rfl
  obtain ⟨d₁, hload, hgranted⟩ := exists_granted hd.derive
  obtain ⟨rows, bar, rfl⟩ := hgranted.eq
  have htakeOver : d.takeOver settings =
      ({ { d with settings } with rows, bar } : Desk σ).inform "Permissions reloaded" := by
    rw [takeOver, hload]
  rw [htakeOver]
  exact ⟨⟨rfl, hgranted.loaded.permissions, hgranted.unchecked, hgranted.loaded.states⟩,
    hd.of_eq rfl rfl⟩

theorem watchers_load {ω : Type} (files : Files) (store : SettingsStore ω) :
    (store.load files).1.watchers = store.watchers := by
  rw [SettingsStore.load]
  split <;> rfl

/-- A reload tells all watchers if it succeeds, and the store keeps them however it ends. -/
theorem watchers_reload {ω : Type} {store store' : SettingsStore ω}
    {outcome : Except Failure (Settings × List ω)} (h : store.reload files = (store', outcome)) :
    store'.watchers = store.watchers ∧
      ∀ settings watchers, outcome = .ok (settings, watchers) → watchers = store.watchers := by
  have hload := watchers_load files store
  rw [SettingsStore.reload] at h
  rcases hcall : store.load files with ⟨store₁, e | s⟩ <;> rw [hcall] at h hload <;> cases h
  · exact ⟨hload, fun _ _ hok => by cases hok⟩
  · exact ⟨hload, fun _ _ hok => by cases hok; exact hload⟩

/-- What is told of settings that are taken over is plain, and is told by the same screen. -/
theorem exists_told_takeOver (settings : Settings) (d : Desk σ) :
    (d.takeOver settings).screen = d.screen ∧ ∃ new,
      (d.takeOver settings).toasts = d.toasts ++ new ∧
      ∀ t ∈ new, t.message = "Permissions reloaded" := by
  rw [takeOver]
  split
  · next d₁ hload =>
    obtain ⟨p, -, hgranted⟩ := exists_of_loadGrants hload
    obtain ⟨rows, bar, rfl⟩ := hgranted.eq
    exact ⟨rfl, _, rfl, by simp⟩
  · exact ⟨rfl, [], (List.append_nil _).symm, fun _ ht => absurd ht List.not_mem_nil⟩

/-- What a reload that succeeds leaves, each watcher having been told. -/
structure ReloadedFrom (grants : List (String × Bool)) (settings : Settings) (d d' : Desk σ) :
    Prop where
  reloaded : Reloaded settings (.ofSettings grants) d'
  granting : Granting grants d'
  screen : d'.screen = d.screen
  toasts : ∃ new, d'.toasts = d.toasts ++ new ∧ ∀ t ∈ new, t.message = "Permissions reloaded"

/-- A toast without markup is drawn on every screen. -/
theorem ReloadedFrom.drawToasts (h : ReloadedFrom grants settings d d') :
    d'.drawToasts d.toasts.length = .ok d' := by
  obtain ⟨new, htoasts, hplain⟩ := h.toasts
  refine drawToasts_eq_ok_iff.mpr ⟨fun t ht => ?_, rfl⟩
  rw [htoasts, List.drop_left] at ht
  rw [hplain t ht]
  exact d'.screen.plain _ (by decide)

/-- A reload that succeeds leaves the desk with the new settings and its old grants. -/
theorem exists_reloaded {store store' : SettingsStore Unit} {watchers : List Unit}
    (h : Granting grants d) (hstore : d.store = some store)
    (hreload : store.reload files = (store', .ok (settings, watchers))) :
    ∃ d', d.reload files = .ok d' ∧ ReloadedFrom grants settings d d' := by
  obtain ⟨hkept, hwatchers⟩ := watchers_reload hreload
  have hne : store.watchers ≠ [] := by
    obtain ⟨_, hstore', hne⟩ := h.store
    cases hstore.symm.trans hstore'
    exact hne
  let d₁ : Desk σ := { d with store := some store' }
  have hd₁ : Granting grants d₁ := ⟨h.grants, store', rfl, hkept ▸ hne⟩
  refine ⟨watchers.foldl (fun d _ => d.takeOver settings) d₁, ?_, ?_⟩
  · rw [reload, hstore]
    dsimp only
    rw [hreload]
  · -- the first watcher brings the desk to the new settings, and each further one once more
    have hne : watchers ≠ [] := hwatchers _ _ rfl ▸ hne
    obtain ⟨watcher, rest, rfl⟩ := List.exists_cons_of_ne_nil hne
    have hfirst := reloaded_takeOver hd₁ settings
    obtain ⟨hscreen, htoasts⟩ := exists_told_takeOver settings d₁
    refine List.foldlRecOn (motive := ReloadedFrom grants settings d) rest
      (fun d _ => d.takeOver settings) ⟨hfirst.1, hfirst.2, hscreen, htoasts⟩ fun d' ih _ _ => ?_
    have hnext := reloaded_takeOver ih.granting settings
    obtain ⟨hscreen, new', htoasts', hplain'⟩ := exists_told_takeOver settings d'
    obtain ⟨new, htoasts, hplain⟩ := ih.toasts
    refine ⟨hnext.1, hnext.2, hscreen.trans ih.screen, new ++ new', ?_, fun t ht => ?_⟩
    · rw [htoasts', htoasts, List.append_assoc]
    · exact (List.mem_append.mp ht).elim (hplain t) (hplain' t)

/-! ### Along a run -/

/-- No act takes the grants away, a reload included. -/
theorem Granting.step {act : Act} (h : Granting grants d)
    (hstep : d.step transport files act = .ok d') : Granting grants d' := by
  by_cases hact : act = .key .reload
  · subst hact
    rcases of_step hstep with ⟨-, rfl⟩ | ⟨-, hstep⟩
    · exact h
    · rw [perform_reload] at hstep
      obtain ⟨store, hstore, hne⟩ := h.store
      rcases hcall : store.reload files with ⟨store', e | ⟨settings, watchers⟩⟩
      · -- a reload that fails is only reported
        rw [reload, hstore] at hstep
        dsimp only at hstep
        rw [hcall] at hstep
        obtain ⟨toasts, rfl⟩ := eq_of_report hstep
        exact ⟨h.grants, store', rfl, (watchers_reload hcall).1 ▸ hne⟩
      · obtain ⟨d'', hok, hreloaded⟩ := exists_reloaded h hstore hcall
        cases hok.symm.trans hstep
        exact hreloaded.granting
  · obtain ⟨new, hrests, -⟩ := exists_rests_step hact hstep
    exact h.of_eq hrests.follows.grants hrests.follows.store

/-- A desk that is launched with grants and a store has them from the start. -/
theorem Granting.start {server : σ} {store : SettingsStore Unit}
    (hgrants : launch.grants = some (Settings.permissionMapping grants))
    (hstore : launch.store = some store) (h : Desk.start transport launch server = .ok d) :
    Granting grants d := by
  obtain ⟨client, d₁, -, hrefresh, hload⟩ := exists_of_start h
  have hfresh : Granting grants (fresh launch client) := by
    refine ⟨hgrants, store.register (), ?_, List.concat_ne_nil _ _⟩
    rw [fresh, hstore]
    rfl
  have hfollows := (rests_refresh hrefresh).follows
  obtain ⟨p, -, hgranted⟩ := exists_of_loadGrants hload
  obtain ⟨rows, bar, rfl⟩ := hgranted.eq
  exact (hfresh.of_eq hfollows.grants hfollows.store).of_eq rfl rfl

/-- What the command line launches is a desk with the permissions in effect as its grants. -/
theorem granting_of_reachable {around : Command.Surroundings σ} {context : Command.Context}
    (h : Reachable (Command.launch around context) d) : Granting context.permissions d := by
  obtain ⟨transport, server, d₀, hstart, hleads⟩ := h
  have hd₀ : Granting context.permissions d₀ := .start rfl rfl hstart
  clear hstart
  induction hleads with
  | refl => exact hd₀
  | step _ hstep ih => exact ih.step hstep

/-- **A reload keeps the permissions of the launch.** On a desk that was launched from the command
line without grants, a reload that succeeds takes over the settings, clears the selection and leaves
no button enabled; hidden are the buttons that the permissions deny. But these are the permissions
of the configuration at the launch. Those of the new one are in effect exactly if they are the
same. -/
theorem reload_keeps_permissions {around : Command.Surroundings σ} {server : σ}
    {arguments rest : List String} {general : Command.General} {name : Command.CommandName}
    {context : Command.Context}
    (understood : Command.readGeneral arguments = .as (general, name, rest))
    (ungranted : general.grants = [])
    (accepted : Command.Accepted around server arguments context .desk)
    (reachable : Reachable (Command.launch around context) d) :
    (∀ client, Client.start context.settings.server server around.reading = .ok client → ∃ handlers,
        (Command.run around server arguments).session.printed =
          [.desk (Command.launch around context) handlers]) ∧
      ∃ store, d.store = some store ∧ ∀ transport files store' settings watchers,
        d.closed = false → store.reload files = (store', .ok (settings, watchers)) →
          ∃ d', d.step transport files (.key .reload) = .ok d' ∧
            d'.settings = settings ∧
            d'.bar.permissions = .ofSettings context.settings.session.permissions ∧
            Source.selection d'.source = .ok [] ∧
            (∀ b, d'.bar.states.get b ≠ .enabled) ∧
            (∀ b, d'.bar.states.get b = .hidden ↔
              d'.bar.permissions.allows b.capability = false) ∧
            (Permissions.derive (Settings.permissionMapping settings.session.permissions) =
                .ok d'.bar.permissions ↔
              Permissions.ofSettings settings.session.permissions =
                .ofSettings context.settings.session.permissions) := by
  have hpermissions := accepted.permissions understood ungranted
  have hd := granting_of_reachable reachable
  rw [hpermissions] at hd
  obtain ⟨store, hstore, -⟩ := hd.store
  refine ⟨fun client => accepted.exists_printed_desk, store, hstore,
    fun transport files store' settings watchers hopen hreload => ?_⟩
  obtain ⟨d', hok, hfrom⟩ := exists_reloaded hd hstore hreload
  have hreloaded := hfrom.reloaded
  refine ⟨d', ?_, hreloaded.settings, hreloaded.permissions, ?_, fun b => ?_, fun b => ?_, ?_⟩
  · rw [step_reload _ _ hopen, hok]
    exact hfrom.drawToasts
  · rw [source, Table.source, hreloaded.unchecked]
    rfl
  · rw [hreloaded.states, ActionBar.baseline]
    split <;> decide
  · rw [hreloaded.states, hreloaded.permissions, ActionBar.baseline]
    split <;> simp [*]
  · rw [hreloaded.permissions, Permissions.derive_permissionMapping, Except.ok.injEq]

/-! ### A configuration that changes -/

/-- Files with a configuration that grants one capability. -/
def granting (capability : String) : Files :=
  Files.ofTexts [("lockdesk.yml",
    "server:\n  base_url: http://ci\nsession:\n  permissions:\n    " ++ capability ++ ": true\n")]

/-- The surroundings of a launch with that configuration, with no server in reach. -/
def launching (capability : String) : Command.Surroundings Unit where
  environment := []
  files := granting capability
  transport := fun _ server => (.error "All connection attempts failed", server)

/-- Whether a launch grants unlocking, and the configuration that is then read anew stealing. -/
def changesGrants (around : Command.Surroundings Unit) (general : Command.General) : Bool :=
  match (Command.prepare around general .desk).run.run { server := () } with
  | (.ok context, _) =>
    match Desk.start around.transport (Command.launch around context) () with
    | .ok d =>
      (context.settings.session.permissions, d.closed) = ([("UNLOCK", true)], false) ∧
        (d.store.map fun store => (store.reload (granting "STEAL")).2.map
          fun read => read.1.session.permissions) = some (.ok [("STEAL", true)])
    | _ => false
  | _ => false

/-- Unlocking is granted at the launch, and when the configuration is read anew, stealing. -/
theorem exists_changed :
    ∃ (context : Command.Context) (d : Desk Unit) (store store' : SettingsStore Unit)
      (settings : Settings) (watchers : List Unit),
      Command.Accepted (launching "UNLOCK") () ["-c", "lockdesk.yml", "tui"] context .desk ∧
      Reachable (Command.launch (launching "UNLOCK") context) d ∧ d.closed = false ∧
      d.store = some store ∧ store.reload (granting "STEAL") = (store', .ok (settings, watchers)) ∧
      context.settings.session.permissions = [("UNLOCK", true)] ∧
      settings.session.permissions = [("STEAL", true)] := by
  let around := launching "UNLOCK"
  let general : Command.General := { config := some "lockdesk.yml" }
  -- launch and reload are run once, and only what the statement asks of them is compared
  have hrun : changesGrants around general = true := by decide +kernel
  rw [changesGrants] at hrun
  split at hrun
  · next context s hprepare =>
    split at hrun
    · next d hstart =>
      obtain ⟨hlaunch, hread⟩ := of_decide_eq_true hrun
      obtain ⟨hunlock, hopen⟩ := Prod.mk.inj hlaunch
      obtain ⟨store, hstore, hread⟩ := Option.map_eq_some_iff.mp hread
      rcases hcall : store.reload (granting "STEAL") with ⟨store', e | ⟨settings, watchers⟩⟩ <;>
        rw [hcall] at hread
      · cases hread
      · exact ⟨context, d, store, store', settings, watchers,
          ⟨general, .desk, [], s, by decide +kernel, hprepare, by decide +kernel⟩,
          ⟨_, _, d, hstart, .refl⟩, hopen, hstore, hcall, hunlock, Except.ok.inj hread⟩
    · cases hrun
  · cases hrun

/-- Stealing that is newly granted stays hidden after the reload. -/
theorem reload_keeps_permissions_unlock :
    ∃ (context : Command.Context) (d d' : Desk Unit),
      Command.readGeneral ["-c", "lockdesk.yml", "tui"] =
        .as ({ config := some "lockdesk.yml" }, .desk, []) ∧
      Command.Accepted (launching "UNLOCK") () ["-c", "lockdesk.yml", "tui"] context .desk ∧
      Reachable (Command.launch (launching "UNLOCK") context) d ∧
      d.step (launching "UNLOCK").transport (granting "STEAL") (.key .reload) = .ok d' ∧
      d'.settings.session.permissions = [("STEAL", true)] ∧
      d'.bar.permissions = .ofSettings [("UNLOCK", true)] ∧
      d'.bar.states.get (.action .steal) = .hidden := by
  obtain ⟨context, d, store, store', settings, watchers, haccepted, hreachable, hopen, hstore,
    hread, hunlock, hsteal⟩ := exists_changed
  have hunderstood : Command.readGeneral ["-c", "lockdesk.yml", "tui"] =
      .as ({ config := some "lockdesk.yml" }, .desk, []) := by decide +kernel
  obtain ⟨-, store₁, hstore₁, hreload⟩ :=
    reload_keeps_permissions hunderstood rfl haccepted hreachable
  cases hstore.symm.trans hstore₁
  obtain ⟨d', hstep, hsettings, hpermissions, -, -, hhidden, -⟩ :=
    hreload (launching "UNLOCK").transport (granting "STEAL") store' settings watchers hopen hread
  rw [hunlock] at hpermissions
  refine ⟨context, d, d', hunderstood, haccepted, hreachable, hstep, hsettings ▸ hsteal,
    hpermissions, (hhidden _).mpr ?_⟩
  rw [hpermissions]
  decide +kernel

/-- The grants of a configuration that was read anew are **not** in effect: here those would let the
user steal. -/
theorem reload_ignores_new_grants :
    ∃ (context : Command.Context) (d d' : Desk Unit),
      Command.Accepted (launching "UNLOCK") () ["-c", "lockdesk.yml", "tui"] context .desk ∧
      Reachable (Command.launch (launching "UNLOCK") context) d ∧
      d.step (launching "UNLOCK").transport (granting "STEAL") (.key .reload) = .ok d' ∧
      d'.settings.session.permissions = [("STEAL", true)] ∧
      Permissions.derive (Settings.permissionMapping d'.settings.session.permissions) ≠
        .ok d'.bar.permissions := by
  obtain ⟨context, d, store, store', settings, watchers, haccepted, hreachable, hopen, hstore,
    hread, hunlock, hsteal⟩ := exists_changed
  have hunderstood : Command.readGeneral ["-c", "lockdesk.yml", "tui"] =
      .as ({ config := some "lockdesk.yml" }, .desk, []) := by decide +kernel
  obtain ⟨d', hok, hfrom⟩ := exists_reloaded (granting_of_reachable hreachable) hstore hread
  have hreloaded := hfrom.reloaded
  refine ⟨context, d, d', haccepted, hreachable, ?_, hreloaded.settings ▸ hsteal, fun heq => ?_⟩
  · rw [step_reload _ _ hopen, hok]
    exact hfrom.drawToasts
  · rw [hreloaded.settings, hsteal, hreloaded.permissions,
      haccepted.permissions hunderstood rfl, hunlock, Permissions.derive_permissionMapping] at heq
    have hallows := congrArg (fun p => p.allows .steal) (Except.ok.inj heq)
    revert hallows
    decide +kernel

end Desk

end Lockable
