import Lockable.Proofs.Desk.Reachable
import Lockable.Proofs.Listing

/-!
# Redrawing

A listing that the desk gets replaces rows, checkboxes, buttons for notes and snapshots, and then
the bar is recomputed. Each part ends consistent with the listing and with what was checked before
(`Desk.Redrawn`), whatever the desk was like: rows may come and go, change their state, and share a
name, of which then the **last** one is recorded.

That needs every value that a row shows to be a text that the screen takes. The flags and the labels
of an entry are made to fit when it is read, but owner, description and note are taken as they are
listed; one that counts as given and is no text cannot be shown, and **ends the desk**. So does a
text with markup that the screen refuses, be it in a row or in the toast that tells of a listing
that could not be had.
-/

namespace Lockable

/-- What fails when it is mapped has failed before. -/
theorem eq_error_of_map_eq_error {ε α β : Type} {x : Except ε α} {f : α → β} {e : ε}
    (h : x.map f = .error e) : x = .error e := by
  cases x <;> cases h
  rfl

namespace Desk

variable {σ : Type} {transport : Http.Transport σ} {d d' : Desk σ} {listing : List Resource}
  {rows : Table} {r : Resource} {checked noteButton : Bool} {row : Row} {e : Failure}
  {files : Files} {screen : Marks}

/-! ### Fresh rows -/

namespace Table

/-- The rows of a new listing, where all can be displayed. -/
def renew (rows : Table) (noteButton : Bool) (listing : List Resource) : Table :=
  listing.map fun r => Row.fresh (rows.checkedNames.contains r.name) noteButton r

theorem resources_renew (rows : Table) (noteButton : Bool) (listing : List Resource) :
    (rows.renew noteButton listing).map Row.resource = listing :=
  List.map_map.trans (List.map_id _)

/-- A row stays checked if a row of its name was. -/
theorem checked_of_mem_renew (h : row ∈ rows.renew noteButton listing) :
    row.checked = true ↔ ∃ old ∈ rows, old.checked = true ∧ old.name = row.name := by
  obtain ⟨r, -, rfl⟩ := List.mem_map.mp h
  exact List.contains_iff_mem.trans mem_checkedNames

theorem fresh_of_mem_renew (h : row ∈ rows.renew noteButton listing) :
    row.noteButton = noteButton ∧ row.note = .reading row.resource.note.display := by
  obtain ⟨r, -, rfl⟩ := List.mem_map.mp h
  exact ⟨rfl, rfl⟩

theorem redraw_of_displayable (h : ∀ r ∈ listing, Row.Displayable screen r) (noteButton : Bool)
    (rows : Table) :
    rows.redraw screen noteButton listing = .ok (rows.renew noteButton listing) := by
  rw [redraw, renew]
  induction listing with
  | nil => rfl
  | cons r rest ih =>
    obtain ⟨hr, hrest⟩ := List.forall_mem_cons.mp h
    rw [List.mapM_cons, Row.make_eq_ok_iff.mpr ⟨hr, rfl⟩, ih hrest]
    rfl

end Table

/-! ### Showing a listing -/

/-- The desk `d'` is the desk `d` **redrawn** with a listing. -/
structure Redrawn (listing : List Resource) (d d' : Desk σ) : Prop where
  /-- Nothing else has changed. -/
  eq : ∃ rows bar, d' = { d with rows, bar, focus := none }
  /-- The rows are the listed resources in their order. -/
  listed : d'.rows.map Row.resource = listing
  /-- A row is checked if a row of its name was. -/
  checked : ∀ row ∈ d'.rows, row.checked = true ↔
    ∃ old ∈ d.rows, old.checked = true ∧ old.name = row.name
  noteButton : ∀ row ∈ d'.rows, row.noteButton = d.bar.noteVisible
  /-- A row shows the note as it is listed. -/
  note : ∀ row ∈ d'.rows, ∃ s, row.resource.note = .text s ∧ row.note = .reading s
  /-- Under a listed name the last entry is recorded, and nothing else has changed. -/
  recorded : ∀ name, Snapshots.get? name d'.bar.snapshots =
    (listing.reverse.find? (·.name = name)).or (Snapshots.get? name d.bar.snapshots)
  /-- No button is hidden or shown. -/
  hidden : ∀ b, d'.bar.states.get b = .hidden ↔ d.bar.states.get b = .hidden
  permissions : d'.bar.permissions = d.bar.permissions
  noteVisible : d'.bar.noteVisible = d.bar.noteVisible
  /-- A row action is enabled if something is checked and the snapshot of every checked row allows
  it. -/
  action : ∀ a, d'.bar.states.get (.action a) ≠ .hidden →
    (d'.bar.states.get (.action a) = .enabled ↔ (∃ row ∈ d'.rows, row.checked = true) ∧
      ∀ row ∈ d'.rows, row.checked = true → ∃ r,
        Snapshots.get? row.name d'.bar.snapshots = some r ∧
          r.allows d'.bar.permissions a = true)
  editNote : d'.bar.states.get .editNote ≠ .hidden →
    (d'.bar.states.get .editNote = .enabled ↔ ∃ row ∈ d'.rows, row.checked = true)
  /-- The screen is up with the states if it was. -/
  shown : d.bar.Shown → d'.bar.Shown

/-- Something is checked where there is a checked row. -/
theorem Table.distinct_checkedNames_ne_nil :
    distinct rows.checkedNames ≠ [] ↔ ∃ row ∈ rows, row.checked = true := by
  rw [ne_eq, distinct_eq_nil, checkedNames, List.map_eq_nil_iff, List.filter_eq_nil_iff]
  simp

/-- What holds of the names of all checked rows. -/
theorem Table.forall_checkedNames_iff {P : String → Prop} :
    (∀ name ∈ distinct rows.checkedNames, P name) ↔
      ∀ row ∈ rows, row.checked = true → P row.name := by
  simp only [mem_distinct, mem_checkedNames]
  constructor
  · exact fun h row hrow hchecked => h row.name ⟨row, hrow, hchecked, rfl⟩
  · rintro h _ ⟨row, hrow, hchecked, rfl⟩
    exact h row hrow hchecked

section Refresh

variable {bar : ActionBar}

/-- What the bar makes of a table that can always say what is checked. -/
private theorem get_refresh (rows : Table) (bar : ActionBar) (b : BarButton)
    (hb : (bar.refresh rows.source).1.states.get b ≠ .hidden) :
    (bar.refresh rows.source).1.states.get b =
      ActionBar.gate bar.permissions (distinct rows.checkedNames)
        (Snapshots.selected (distinct rows.checkedNames) bar.snapshots) b := by
  have hb : bar.states.get b ≠ .hidden :=
    mt ((ActionBar.adjusts_refresh rows.source bar).hidden b).mpr hb
  have hselection : Source.selection rows.source = .ok (distinct rows.checkedNames) := rfl
  have htruthful : ActionBar.Recomputation.refresh.Truthful (distinct rows.checkedNames) := nofun
  exact (ActionBar.Recomputation.get_run hselection htruthful bar b).trans (if_neg hb)

/-- Where every row has a snapshot, a row action is enabled if something is checked and the snapshot
of every checked row allows it. -/
theorem enabled_refresh_action (a : RowAction)
    (hfound : ∀ row ∈ rows, ∃ r, Snapshots.get? row.name bar.snapshots = some r)
    (ha : (bar.refresh rows.source).1.states.get (.action a) ≠ .hidden) :
    (bar.refresh rows.source).1.states.get (.action a) = .enabled ↔
      (∃ row ∈ rows, row.checked = true) ∧ ∀ row ∈ rows, row.checked = true →
        ∃ r, Snapshots.get? row.name bar.snapshots = some r ∧
          r.allows bar.permissions a = true := by
  have hfound : ∀ name ∈ distinct rows.checkedNames,
      ∃ r, Snapshots.get? name bar.snapshots = some r :=
    Table.forall_checkedNames_iff.mpr fun row hrow _ => hfound row hrow
  rw [get_refresh rows bar _ ha, ActionBar.gate_action_eq_enabled_iff,
    Table.distinct_checkedNames_ne_nil, Snapshots.forall_selected_iff hfound,
    Table.forall_checkedNames_iff]

theorem enabled_refresh_editNote
    (he : (bar.refresh rows.source).1.states.get .editNote ≠ .hidden) :
    (bar.refresh rows.source).1.states.get .editNote = .enabled ↔
      ∃ row ∈ rows, row.checked = true := by
  rw [get_refresh rows bar _ he, ActionBar.gate_editNote_eq_enabled_iff,
    Table.distinct_checkedNames_ne_nil]

end Refresh

/-- **A listing that can be displayed is shown.** -/
theorem exists_redrawn (d : Desk σ) (h : ∀ r ∈ listing, Row.Displayable d.screen r) :
    ∃ d', d.draw listing = .ok d' ∧ Redrawn listing d d' := by
  let rows := d.rows.renew d.bar.noteVisible listing
  let bar := recorded listing d.bar
  have hadj : bar.Adjusts (bar.refresh rows.source).1 := ActionBar.adjusts_refresh rows.source bar
  have hlisted : rows.map Row.resource = listing := Table.resources_renew ..
  have hfound : ∀ row ∈ rows, ∃ r, Snapshots.get? row.name bar.snapshots = some r := by
    intro row hrow
    have hname : row.name ∈ listing.map Resource.name := by
      rw [← hlisted, List.map_map]
      exact List.mem_map_of_mem hrow
    obtain ⟨last, -, -, hlast⟩ := Snapshots.exists_get?_recordAll hname d.bar.snapshots
    exact ⟨last, hlast⟩
  refine ⟨{ d with rows, bar := (bar.refresh rows.source).1, focus := none }, ?_, ?_⟩
  · exact draw_of_redraw (Table.redraw_of_displayable h _ d.rows)
  · exact {
      eq := ⟨rows, _, rfl⟩
      listed := hlisted
      checked := fun row hrow => Table.checked_of_mem_renew hrow
      noteButton := fun row hrow => (Table.fresh_of_mem_renew hrow).1
      note := fun row hrow => by
        have hnote : row.resource.note ∈ Row.shown row.resource := by simp [Row.shown]
        obtain ⟨s, hs, -⟩ := Row.refusal?_eq_none_iff.mp
          (h row.resource (hlisted ▸ List.mem_map_of_mem hrow) _ hnote)
        exact ⟨s, hs, by rw [(Table.fresh_of_mem_renew hrow).2, hs, Json.display]⟩
      recorded := fun name => by
        rw [hadj.snapshots]
        exact Snapshots.get?_recordAll_eq_last listing d.bar.snapshots name
      hidden := hadj.hidden
      permissions := hadj.permissions
      noteVisible := hadj.noteVisible
      action := fun a ha => by
        rw [hadj.snapshots, hadj.permissions]
        exact enabled_refresh_action a hfound ha
      editNote := enabled_refresh_editNote
      shown := hadj.shown }

/-- A listing of which something cannot be displayed is not shown. -/
theorem exists_of_draw_not_displayable (d : Desk σ)
    (h : ∃ r ∈ listing, ¬Row.Displayable d.screen r) :
    ∃ r ∈ listing, ∃ v ∈ Row.shown r, ∃ e, Row.refusal? d.screen v = some e ∧
      d.draw listing = .error e := by
  cases hrows : d.rows.redraw d.screen d.bar.noteVisible listing with
  | ok rows =>
    obtain ⟨r, hr, hnot⟩ := h
    obtain ⟨row, hmake⟩ := Client.exists_mapM_iff.mp ⟨rows, hrows⟩ r hr
    exact absurd (Row.make_eq_ok_iff.mp hmake).1 hnot
  | error e =>
    obtain ⟨r, hr, hmake⟩ := Client.exists_of_mapM_eq_error hrows
    obtain ⟨v, hv, hrefusal⟩ := Row.exists_of_make_eq_error hmake
    exact ⟨r, hr, v, hv, e, hrefusal, by rw [draw, hrows]⟩

/-! ### Fetching the listing -/

section Fetch

variable {client : Client σ}

theorem refresh_of_listed (h : d.client.call (Client.listResources transport
      (Settings.textOrNull d.settings.session.user)) = (.ok listing, client)) :
    d.refresh transport = { d with client }.draw listing := by
  unfold refresh
  dsimp only
  rw [h]

theorem refresh_of_not_listed (h : d.client.call (Client.listResources transport
      (Settings.textOrNull d.settings.session.user)) = (.error e, client)) :
    d.refresh transport = { d with client }.report "Refresh failed" e := by
  unfold refresh
  dsimp only
  rw [h]

end Fetch

/-- Without a draft at the keyboard the key that refreshes does what the clock does. -/
theorem step_key_refresh (h : d.focus = none) :
    d.step transport files (.key .refresh) = d.step transport files .tick := by
  have hstrike : d.strike transport files .refresh = d.refresh transport := by
    rw [strike, h]
  rw [step, step, perform, perform, hstrike]

theorem step_tick (hopen : d.closed = false) : d.step transport files .tick =
    d.refresh transport >>= fun d' => d'.drawToasts d.toasts.length := by
  rw [step, hopen]
  rfl

/-- **Redrawing keeps the selection.** Whatever the desk is like, and whatever the server answers:

* a listing that cannot be had, for a reason that is the user's to know, is told and changes nothing
  else, if the screen takes the message; any other reason ends the desk, and so does the message;
* a listing that can be displayed redraws the desk, entries of one name or none being no exception;
* any other listing ends the desk, for a name, an owner, a description or a note in it that is no
  text or that the screen refuses.

The key that refreshes does the same unless a draft has the keyboard (`step_key_refresh`). -/
theorem refresh_keeps_selection (transport : Http.Transport σ) (files : Files)
    (hopen : d.closed = false) :
    (∀ e client, d.client.call (Client.listResources transport
        (Settings.textOrNull d.settings.session.user)) = (.error e, client) →
      d.step transport files .tick =
        if e.isReported then
          match d.screen.failure? e.message with
          | none => .ok { d with
            client
            toasts := d.toasts ++ [{
              severity := .error
              title := "Refresh failed"
              message := e.message }] }
          | some refusal => .error refusal
        else .error e) ∧
    ∀ listing client, d.client.call (Client.listResources transport
        (Settings.textOrNull d.settings.session.user)) = (.ok listing, client) →
      ((∀ r ∈ listing, Row.Displayable d.screen r) →
        ∃ d', d.step transport files .tick = .ok d' ∧ Redrawn listing { d with client } d') ∧
      ((∃ r ∈ listing, ¬Row.Displayable d.screen r) →
        ∃ r ∈ listing, ∃ v ∈ Row.shown r, ∃ e, Row.refusal? d.screen v = some e ∧
          d.step transport files .tick = .error e) := by
  refine ⟨fun e client hcall => ?_, fun listing client hcall => ⟨fun h => ?_, fun h => ?_⟩⟩
  · rw [step_tick hopen, refresh_of_not_listed hcall]
    exact report_drawn "Refresh failed" e { d with client }
  · obtain ⟨d', hdraw, hredrawn⟩ := exists_redrawn { d with client } h
    obtain ⟨rows, bar, rfl⟩ := hredrawn.eq
    refine ⟨_, ?_, hredrawn⟩
    rw [step_tick hopen, refresh_of_listed hcall, hdraw]
    exact drawToasts_eq_ok_iff.mpr ⟨by simp, rfl⟩
  · obtain ⟨r, hr, v, hv, e, hrefusal, hdraw⟩ := exists_of_draw_not_displayable { d with client } h
    refine ⟨r, hr, v, hv, e, hrefusal, ?_⟩
    rw [step_tick hopen, refresh_of_listed hcall, hdraw]
    rfl

/-- A launch with unlocking granted. -/
def unlockLaunch : Launch where
  settings := { server := { baseUrl := "http://ci" } }
  grants := some (.object [("UNLOCK", .bool true)])

/-- A server that lists a board at first, and then a lamp in front of it. -/
def lampLater : Http.Transport Nat := fun _ calls =>
  let lamp := match calls with
    | 0 => ""
    | _ + 1 => "\x7b\"name\": \"lamp\"\x7d, "
  let listing := "\x7b\"resources\": [" ++ lamp ++ "\x7b\"name\": \"board\"\x7d]\x7d"
  (.ok (.ofText listing), calls + 1)

/-- A lamp is listed in front of a board that is checked: the board is still checked, the lamp is
not. -/
theorem refresh_keeps_selection_board :
    ∃ d d' : Desk Nat, Reachable unlockLaunch d ∧ d.closed = false ∧
      d.rows.checkedNames = ["board"] ∧ d.step lampLater {} .tick = .ok d' ∧
      d'.rows.map Row.name = ["lamp", "board"] ∧
      ∀ row ∈ d'.rows, row.checked = true ↔ row.name = "board" := by
  have hrun : (do
      let d ← Desk.start lampLater unlockLaunch 0
      let d ← d.step lampLater {} (.check 0 true)
      return (d.closed, d.rows.checkedNames,
        (d.client.call (Client.listResources lampLater
          (Settings.textOrNull d.settings.session.user))).1.map fun l => (l.map Resource.name,
            l.all fun r => (Row.shown r).all fun v => (Row.refusal? d.screen v).isNone)) :
        Except Failure _) =
      .ok (false, ["board"], .ok (["lamp", "board"], true)) := by
    decide +kernel
  obtain ⟨d₀, hstart, hrun⟩ := exists_of_bind_eq_ok hrun
  obtain ⟨d, hstep, hrun⟩ := exists_of_bind_eq_ok hrun
  have hseen := Except.ok.inj hrun
  simp only [Prod.mk.injEq] at hseen
  obtain ⟨hopen, hchecked, hlisted⟩ := hseen
  obtain ⟨-, hkept⟩ := refresh_keeps_selection lampLater {} hopen
  rcases hcall : d.client.call (Client.listResources lampLater
    (Settings.textOrNull d.settings.session.user)) with ⟨e | listing, client⟩ <;>
    rw [hcall] at hlisted
  · cases hlisted
  · obtain ⟨hnames, hshown⟩ := Prod.mk.inj (Except.ok.inj hlisted)
    have hdisplayable : ∀ r ∈ listing, Row.Displayable d.screen r := by
      simpa [Row.Displayable] using hshown
    obtain ⟨d', htick, hredrawn⟩ := (hkept listing client hcall).1 hdisplayable
    refine ⟨d, d', ⟨lampLater, 0, d₀, hstart, Leads.refl.step hstep⟩, hopen, hchecked, htick, ?_,
      fun row hrow => ?_⟩
    · rw [← hnames, ← hredrawn.listed, List.map_map]
      rfl
    · rw [hredrawn.checked row hrow, ← Table.mem_checkedNames, hchecked, List.mem_singleton]

/-- A number in place of a note is listed, and ends the desk. -/
theorem refresh_ends_on_numeric_note :
    let listing (note : String) :=
      "\x7b\"resources\": [\x7b\"name\": \"board\"" ++ note ++ "\x7d]\x7d"
    let transport : Http.Transport Nat := fun _ calls =>
      let note := if calls = 0 then "" else ", \"note\": 5"
      (.ok { status := 200, body := Utf8.encode (listing note).toList }, calls + 1)
    ∃ d : Desk Nat, Reachable unlockLaunch d ∧ d.closed = false ∧
      (d.client.call (Client.listResources transport .null)).1.map (List.map Resource.name) =
        .ok ["board"] ∧
      d.step transport {} (.key .refresh) = .error (.notDisplayable "int") := by
  intro listing transport
  have hrun : (do
      let d ← Desk.start transport unlockLaunch 0
      return (d.closed,
        (d.client.call (Client.listResources transport .null)).1.map (List.map Resource.name),
        (d.step transport {} (.key .refresh)).map fun _ => ()) : Except Failure _) =
      .ok (false, .ok ["board"], .error (.notDisplayable "int")) := by
    decide +kernel
  obtain ⟨d, hstart, hd⟩ := exists_of_bind_eq_ok hrun
  obtain ⟨hopen, hlisted, hstep⟩ : d.closed = false ∧ _ = _ ∧
      (d.step transport {} (.key .refresh)).map (fun _ => ()) = .error (.notDisplayable "int") := by
    simpa using Except.ok.inj hd
  exact ⟨d, ⟨transport, 0, d, hstart, .refl⟩, hopen, hlisted, eq_error_of_map_eq_error hstep⟩

end Desk

end Lockable
