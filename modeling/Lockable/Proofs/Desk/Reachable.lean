import Lockable.Proofs.Desk.Acts

/-!
# The desks of a run

`Desk.Reachable` are the desks that a launch leads to, by any acts of the user and any ticks of the
clock, whatever the server answers and whatever stands in the files. Starting and reloading load the
grants in effect: the bar goes back to the baseline and every row is unchecked, which agree with
each other. So every desk of a run is sound, as long as no name is listed twice, and **no batch is
submitted that the rules refuse**.
-/

namespace Lockable.Desk

variable {σ : Type} {transport : Http.Transport σ} {files : Files} {d d' d'' : Desk σ}
  {launch : Launch} {client : Client σ} {settings : Settings} {p : Permissions}

/-! ### Loading the grants in effect -/

/-- The desk after the grants in effect were loaded: nothing is checked, and the bar is at the
baseline. -/
structure Granted (d : Desk σ) (p : Permissions) (d' : Desk σ) : Prop where
  eq : ∃ rows bar, d' = { d with rows, bar }
  resources : d'.rows.map Row.resource = d.rows.map Row.resource
  unchecked : d'.rows.checkedNames = []
  loaded : d.bar.Loaded p d'.bar

/-- Grants that can be read are loaded. -/
theorem exists_granted (hp : Permissions.derive d.grantMapping = .ok p) :
    ∃ d', d.loadGrants = .ok d' ∧ Granted d p d' := by
  have hcleared : Source.cleared d.source = .ok (some { checked := [] }) := rfl
  obtain ⟨bar, hload, hloaded⟩ := ActionBar.exists_loaded hp hcleared d.bar
  let rows : Table := d.rows.map fun r => { r with checked := false, noteButton := bar.noteVisible }
  refine ⟨{ d with rows, bar }, ?_, ⟨rows, bar, rfl⟩, ?_, ?_, hloaded⟩
  · rw [loadGrants, hload]
  · exact List.map_map
  · simp [Table.checkedNames, rows]

theorem exists_of_loadGrants (h : d.loadGrants = .ok d') :
    ∃ p, Permissions.derive d.grantMapping = .ok p ∧ Granted d p d' := by
  cases hp : Permissions.derive d.grantMapping with
  | error e =>
    rw [loadGrants, ActionBar.load, hp] at h
    cases h
  | ok p =>
    obtain ⟨d'', hload, hgranted⟩ := exists_granted hp
    cases hload.symm.trans h
    exact ⟨p, rfl, hgranted⟩

namespace Granted

/-- At the baseline, with nothing checked, table and bar agree. -/
theorem sound (h : Granted d p d') (hd : Sound d) : Sound d' where
  listed := by
    obtain ⟨rows, bar, rfl⟩ := h.eq
    exact h.resources.trans hd.listed
  agree := {
    toReady :=
      have hready := hd.agree.toReady.of_resources h.resources
      { distinct := hready.distinct
        recorded := fun row hrow => h.loaded.snapshots ▸ hready.recorded row hrow
        hidden := fun b => by
          rw [h.loaded.states, h.loaded.permissions, ActionBar.baseline]
          split <;> simp [*]
        shown := h.loaded.shown }
    states := fun b => by
      rw [h.loaded.states, h.unchecked, h.loaded.permissions, ActionBar.gated_nil] }

end Granted

/-! ### Reloading -/

/-- Taking over settings keeps the desk sound, and does not concern the client. -/
theorem sound_takeOver (settings : Settings) (d : Desk σ) :
    (d.takeOver settings).client = d.client ∧ (Sound d → Sound (d.takeOver settings)) := by
  have hsettings : Sound d → Sound { d with settings } := fun hd => hd.of_marks rfl rfl rfl
  rw [takeOver]
  split
  · next d₁ hload =>
    obtain ⟨p, -, hgranted⟩ := exists_of_loadGrants hload
    obtain ⟨rows, bar, rfl⟩ := hgranted.eq
    exact ⟨rfl, fun hd => (hgranted.sound (hsettings hd)).of_marks rfl rfl rfl⟩
  · exact ⟨rfl, hsettings⟩

theorem sound_reload (h : d.reload files = .ok d') :
    d'.client = d.client ∧ (Sound d → Sound d') := by
  rw [reload] at h
  split at h
  · cases h
    exact ⟨rfl, id⟩
  · split at h
    · next store settings watchers _ =>
      cases h
      have hstore : Sound d → Sound { d with store := some store } :=
        fun hd => hd.of_marks rfl rfl rfl
      -- the watchers take over the settings one after another
      refine List.foldlRecOn (motive := fun d' => d'.client = d.client ∧ (Sound d → Sound d'))
        watchers (fun d _ => d.takeOver settings) ⟨rfl, hstore⟩ fun d₁ ih _ _ => ?_
      obtain ⟨hclient, hsound⟩ := sound_takeOver settings d₁
      exact ⟨hclient.trans ih.1, hsound ∘ ih.2⟩
    · obtain ⟨toasts, rfl⟩ := eq_of_report h
      exact ⟨rfl, fun hd => hd.of_marks rfl rfl rfl⟩

/-- The key that reloads does so wherever the keyboard is. -/
theorem strike_reload (transport : Http.Transport σ) (files : Files) (d : Desk σ) :
    d.strike transport files .reload = d.reload files := by
  rw [strike]
  split
  · next hletter => cases hletter
  · rfl

theorem perform_reload (transport : Http.Transport σ) (files : Files) (d : Desk σ) :
    d.perform transport files (.key .reload) = d.reload files :=
  strike_reload transport files d

theorem step_reload (transport : Http.Transport σ) (files : Files) (h : d.closed = false) :
    d.step transport files (.key .reload) =
      d.reload files >>= fun d' => d'.drawToasts d.toasts.length := by
  rw [step, h, perform_reload]
  rfl

theorem sound_step_reload (h : d.step transport files (.key .reload) = .ok d') :
    d'.client = d.client ∧ (Sound d → Sound d') := by
  rcases of_step h with ⟨-, rfl⟩ | ⟨-, h⟩
  · exact ⟨rfl, id⟩
  · exact sound_reload (perform_reload transport files d ▸ h)

/-! ### Starting -/

/-- An empty table agrees with a bar on which everything is hidden. -/
theorem sound_fresh (h : client.listings = []) : Sound (fresh launch client) := by
  have hget : ∀ b, (fresh launch client).bar.states.get b = .hidden := fun b => by
    rw [fresh, ActionBar.bind, ActionBar.get_update]
    exact ButtonStates.get_ofFn _ b
  refine ⟨?_, ⟨List.nodup_nil, fun _ hrow => absurd hrow List.not_mem_nil, fun b => ?_, ?_⟩,
    fun b => ?_⟩
  · rw [lastListing, fresh, h]
    rfl
  · exact iff_of_true (hget b) rfl
  · exact ActionBar.shown_update_all _ _
  · rw [hget]
    rfl

/-- At the start there is a client, the first listing is shown or told to be missing, and then the
grants are loaded. -/
theorem exists_of_start {server : σ} (h : start transport launch server = .ok d) :
    ∃ client d₁, Client.start launch.settings.server server launch.reading = .ok client ∧
      (fresh launch client).refresh transport = .ok d₁ ∧ d₁.loadGrants = .ok d := by
  obtain ⟨client, hclient, h⟩ := exists_of_bind_eq_ok h
  obtain ⟨d₁, hrefresh, h⟩ := exists_of_bind_eq_ok h
  obtain ⟨d₂, hload, hdraw⟩ := exists_of_bind_eq_ok h
  obtain ⟨-, rfl⟩ := drawToasts_eq_ok_iff.mp hdraw
  exact ⟨client, d₁, hclient, hrefresh, hload⟩

/-- A desk at the start is sound, and nothing was submitted. -/
theorem sound_start {server : σ} (h : start transport launch server = .ok d) :
    d.client.submitted = [] ∧ (d.ListsDistinct → Sound d) := by
  obtain ⟨client, d₁, hclient, hrefresh, hload⟩ := exists_of_start h
  obtain ⟨hsubmitted, hlistings⟩ := Client.empty_of_start hclient
  obtain ⟨hfollows, hrests⟩ := rests_refresh hrefresh
  obtain ⟨p, -, hgranted⟩ := exists_of_loadGrants hload
  have hd : d.client = d₁.client := by
    obtain ⟨rows, bar, rfl⟩ := hgranted.eq
    rfl
  refine ⟨?_, fun hdistinct => hgranted.sound (hrests ?_ (sound_fresh hlistings))⟩
  · rw [hd, hfollows.submitted, fresh, hsubmitted]
    rfl
  · rwa [ListsDistinct, hd] at hdistinct

/-! ### Runs -/

/-- One desk leads to another by acts of the user. At every step the server answers as it likes, and
the files may have changed. -/
inductive Leads (d : Desk σ) : Desk σ → Prop where
  | refl : Leads d d
  | step {transport : Http.Transport σ} {files : Files} {act : Act} {d' d'' : Desk σ}
      (hd : Leads d d') (h : d'.step transport files act = .ok d'') : Leads d d''

/-- The desks that a launch leads to. -/
def Reachable (launch : Launch) (d : Desk σ) : Prop :=
  ∃ transport server d₀, Desk.start transport launch server = .ok d₀ ∧ Leads d₀ d

/-- No step loses a listing, and what it submits is warranted by the desk that it found. -/
theorem exists_submitted_step {act : Act} (h : d.step transport files act = .ok d') :
    ∃ new, d'.client.submitted = d.client.submitted ++ new ∧
      (d'.ListsDistinct → d.ListsDistinct) ∧ (d'.ListsDistinct → Sound d → Sound d') ∧
      (Sound d → ∀ r ∈ new, act = .press (.action r.action) ∧ Warranted d r) := by
  by_cases hact : act = .key .reload
  · subst hact
    obtain ⟨hclient, hsound⟩ := sound_step_reload h
    refine ⟨[], ?_, fun hdistinct => ?_, fun _ => hsound, fun _ r hr => absurd hr List.not_mem_nil⟩
    · rw [hclient, List.append_nil]
    · rwa [ListsDistinct, hclient] at hdistinct
  · obtain ⟨new, hrests, hnew⟩ := exists_rests_step hact h
    exact ⟨new, hrests.follows.submitted, hrests.follows.listsDistinct, hrests.sound, hnew⟩

/-- What a run has submitted was warranted by the desk at which its button was pressed. -/
theorem Leads.sound {d₀ : Desk σ} (h : Leads d₀ d) (hstart : d₀.client.submitted = [])
    (hsound : d₀.ListsDistinct → Sound d₀) (hdistinct : d.ListsDistinct) :
    Sound d ∧ ∀ r ∈ d.client.submitted, ∃ before, Leads d₀ before ∧ Warranted before r ∧
      Leads before d := by
  induction h with
  | refl =>
    rw [hstart]
    exact ⟨hsound hdistinct, fun _ hr => absurd hr List.not_mem_nil⟩
  | @step transport files act d' d'' hd h ih =>
    obtain ⟨new, hsubmitted, hlists, hrests, hnew⟩ := exists_submitted_step h
    -- no listing is lost, so the listings so far have distinct names if those at the end have
    obtain ⟨hd', hbefore⟩ := ih (hlists hdistinct)
    refine ⟨hrests hdistinct hd', fun r hr => ?_⟩
    rw [hsubmitted] at hr
    rcases List.mem_append.mp hr with hr | hr
    · obtain ⟨before, hlead, hwarranted, hafter⟩ := hbefore r hr
      exact ⟨before, hlead, hwarranted, hafter.step h⟩
    · exact ⟨d', hd, (hnew hd' r hr).2, Leads.refl.step h⟩

/-- **No batch is submitted that the rules refuse.** At every desk of a run in which no listing has
a name twice, the rows are the entries of the last listing, each recorded under its name, and every
button is as the gate says for the checked rows. Whatever was submitted so far was warranted by the
desk of the run at which its button was pressed, and so is what the next act submits. A click on a
row action submits one such request whatever becomes of it. -/
theorem submits_only_warranted (reachable : Reachable launch d) (listsDistinct : d.ListsDistinct) :
    d.rows.map Row.resource = d.lastListing ∧
      (∀ row ∈ d.rows, Snapshots.get? row.name d.bar.snapshots = some row.resource) ∧
      (∀ b, d.bar.states.get b = ActionBar.gated d.bar.permissions d.rows.checkedNames
        d.rows.checkedResources b) ∧
      (∀ r ∈ d.client.submitted, ∃ before : Desk σ, Reachable launch before ∧
        Warranted before r ∧ Leads before d) ∧
      (∀ transport files act d', d.step transport files act = .ok d' →
        ∃ new, d'.client.submitted = d.client.submitted ++ new ∧
          ∀ r ∈ new, act = .press (.action r.action) ∧ Warranted d r) ∧
      ∀ transport a, d.clickable (.action a) = true → ∃ r, r.action = a ∧ Warranted d r ∧
        (d.client.call (Client.dispatch transport a.capability d.source)).2.submitted =
          d.client.submitted ++ [r] := by
  obtain ⟨transport, server, d₀, hstart, hleads⟩ := reachable
  obtain ⟨hd₀, hsound⟩ := sound_start hstart
  obtain ⟨hd, hsubmitted⟩ := hleads.sound hd₀ hsound listsDistinct
  refine ⟨hd.listed, hd.agree.recorded, hd.agree.states, fun r hr => ?_,
    fun _ _ act d' h => ?_, fun transport a h => exists_warranted hd h transport⟩
  · obtain ⟨before, hbefore, hwarranted, hafter⟩ := hsubmitted r hr
    exact ⟨before, ⟨transport, server, d₀, hstart, hbefore⟩, hwarranted, hafter⟩
  · obtain ⟨new, hsubmitted, -, -, hnew⟩ := exists_submitted_step h
    exact ⟨new, hsubmitted, hnew hd⟩

/-- A board is listed and checked: pressing the button that reserves submits just that. -/
theorem submits_only_warranted_board :
    let launch : Launch := {
      settings := { server := { baseUrl := "http://ci" } }
      grants := some (.object [("RESERVE", .bool true)]) }
    let listing := "\x7b\"resources\": [\x7b\"name\": \"board\"\x7d]\x7d"
    let transport : Http.Transport Unit := fun _ server =>
      (.ok { status := 200, body := Utf8.encode listing.toList }, server)
    ∃ d : Desk Unit, Reachable launch d ∧ d.ListsDistinct ∧
      d.clickable (.action .reserve) = true ∧
      ∃ r : ActionRequest, r.action = .reserve ∧ r.resources = ["board"] ∧
        (d.client.call (Client.dispatch transport .reserve d.source)).2.submitted = [r] := by
  intro launch listing transport
  have hrun : (do
      let d ← Desk.start transport launch ()
      let d ← d.step transport {} (.check 0 true)
      return (d.clickable (.action .reserve), d.rows.checkedNames, d.client.submitted,
        d.client.listings.map (List.map Resource.name)) : Except Failure _) =
      .ok (true, ["board"], [], [["board"]]) := by
    decide +kernel
  obtain ⟨d₀, hstart, hrun⟩ := exists_of_bind_eq_ok hrun
  obtain ⟨d, hstep, hrun⟩ := exists_of_bind_eq_ok hrun
  obtain ⟨hclick, hnames, hsubmitted, hlistings⟩ : d.clickable (.action .reserve) = true ∧
      d.rows.checkedNames = ["board"] ∧ d.client.submitted = [] ∧
      d.client.listings.map (List.map Resource.name) = [["board"]] := by
    simpa using Except.ok.inj hrun
  have hreachable : Reachable launch d := ⟨transport, (), d₀, hstart, Leads.refl.step hstep⟩
  have hdistinct : d.ListsDistinct := fun listing hmem => by
    have hmem := List.mem_map_of_mem (f := List.map Resource.name) hmem
    rw [hlistings, List.mem_singleton] at hmem
    rw [hmem]
    decide
  obtain ⟨-, -, -, -, -, hclicked⟩ := submits_only_warranted hreachable hdistinct
  obtain ⟨r, haction, hr, hcall⟩ := hclicked transport .reserve hclick
  refine ⟨d, hreachable, hdistinct, hclick, r, haction, hr.resources.trans hnames, ?_⟩
  rw [hsubmitted] at hcall
  exact hcall

end Lockable.Desk
