import Lockable.Proofs.Desk.AtRest

/-!
# What the user does at the desk

Each act keeps the desk at rest. Checkboxes are announced to the bar one after another, and each
announcement makes it agree with the table, since the boxes were all set before the first of them.
What concerns notes leaves table and bar alone.

Only a press of a row action submits anything. The button can be clicked only if it is enabled, and
then the gate is open: the batch names the checked rows, and each of them allows the action
(`Desk.Warranted`).
-/

namespace Lockable.Desk

variable {σ : Type} {transport : Http.Transport σ} {files : Files} {d d' d'' : Desk σ}
  {new : List ActionRequest} {row : Nat}

/-! ### Checkboxes -/

/-- An announcement changes nothing but the bar, and not what that permits. -/
theorem exists_of_announce {checked : Bool} {rs : List Resource}
    (h : announce checked rs d = .ok d') :
    ∃ bar, d' = { d with bar } ∧ bar.permissions = d.bar.permissions := by
  induction rs generalizing d with
  | nil =>
    cases h
    exact ⟨_, rfl, rfl⟩
  | cons r rest ih =>
    rw [announce, adopt] at h
    rcases hchange : d.bar.selectionChanged r checked d.source with ⟨bar, e | _⟩
    · rw [hchange] at h
      cases h
    · rw [hchange] at h
      have hadj := ActionBar.adjusts_selectionChanged r checked d.source d.bar
      rw [hchange] at hadj
      obtain ⟨bar', rfl, hp⟩ := ih (d := { d with bar }) h
      exact ⟨bar', rfl, hp.trans hadj.permissions⟩

/-- Rows are announced that are checked as it is said. If there are any, table and bar agree
afterwards, whatever the states were before. -/
theorem agree_of_announce {checked : Bool} {rs : List Resource}
    (h : announce checked rs d = .ok d') (hd : Ready d.rows d.bar)
    (hrs : ∀ r ∈ rs, ∃ row ∈ d.rows, row.checked = checked ∧ row.resource = r)
    (hagree : rs ≠ [] ∨ Agree d.rows d.bar) : Agree d'.rows d'.bar := by
  induction rs generalizing d with
  | nil =>
    cases h
    exact hagree.resolve_left fun h => h rfl
  | cons r rest ih =>
    obtain ⟨row, hrow, hchecked, rfl⟩ := hrs r List.mem_cons_self
    have ht : (ActionBar.Recomputation.change row.resource checked).Truthful
        d.rows.checkedNames := by
      rintro r hr
      cases hr
      exact Table.mem_checkedNames.mpr ⟨row, hrow, hchecked, rfl⟩
    -- all boxes were set before, so already the first announcement makes the bar agree
    obtain ⟨hok, hagree, -⟩ := hd.run (.change row.resource checked) (hd.record hrow) ht
    have hok : (d.bar.selectionChanged row.resource checked d.source).2 = .ok () := hok
    rw [announce, adopt, hok] at h
    exact ih h hagree.toReady (fun r hr => hrs r (List.mem_cons_of_mem _ hr)) (.inr hagree)

/-- Checkboxes were set and are announced. -/
private theorem rests_announce {rows : Table} {checked : Bool} {rs : List Resource}
    (hresources : rows.map Row.resource = d.rows.map Row.resource)
    (hrs : ∀ r ∈ rs, ∃ row ∈ rows, row.checked = checked ∧ row.resource = r)
    (hagree : rs ≠ [] ∨ rows.marks = d.rows.marks)
    (h : announce checked rs { d with rows } = .ok d') : Rests [] d d' := by
  obtain ⟨bar, rfl, hp⟩ := exists_of_announce h
  refine ⟨⟨rfl, rfl, rfl, hp, (List.append_nil _).symm, List.prefix_rfl⟩, fun _ hd => ?_⟩
  refine ⟨hresources.trans hd.listed, ?_⟩
  exact agree_of_announce h (hd.agree.toReady.of_resources hresources) hrs
    (hagree.imp_right hd.agree.of_marks)

theorem rests_check {checked : Bool} (h : d.check row checked = .ok d') : Rests [] d d' := by
  rw [check] at h
  split at h
  · cases h
    exact (Annotates.refl d).rests
  · next r hr =>
    split at h
    · cases h
      exact (Annotates.refl d).rests
    · let rows : Table := d.rows.modify row fun r => { r with checked }
      have hmem : { r with checked } ∈ rows := by
        refine List.mem_iff_getElem?.mpr ⟨row, ?_⟩
        simp [rows, hr]
      refine rests_announce (Table.resources_check row checked d.rows) ?_
        (.inl (List.cons_ne_nil _ _)) h
      rintro _ hmem'
      cases List.mem_singleton.mp hmem'
      exact ⟨_, hmem, rfl, rfl⟩

theorem rests_checkAll {checked : Bool} (h : d.checkAll checked = .ok d') : Rests [] d d' := by
  refine rests_announce (Table.resources_setAll checked d.rows)
    (fun _ => Table.exists_of_mem_differing) ?_ h
  -- without a box that differs nothing is announced, but then nothing was set either
  by_cases hdiffer : d.rows.differing checked = []
  · exact .inr (Table.marks_setAll hdiffer)
  · exact .inl hdiffer

/-! ### Notes -/

theorem annotates_showNote (row : Nat) (what : Note.Display) (d : Desk σ) :
    Annotates d (d.showNote row what) := by
  have hput : ∀ note focus,
      Annotates d { d with rows := d.rows.setNote row note, focus := focus } := fun note _ =>
    ⟨rfl, rfl, rfl, rfl, Table.marks_setNote row note d.rows, rfl, rfl⟩
  cases what with
  | loading => exact hput _ _
  | form form => exact hput _ _
  | focus found =>
    rw [showNote]
    split
    · exact ⟨rfl, rfl, rfl, rfl, rfl, rfl, rfl⟩
    · exact .refl d

theorem annotates_showAll (row : Nat) (happenings : List Note.Happening) (d : Desk σ) :
    Annotates d (d.showAll row happenings) := by
  rw [showAll]
  induction happenings generalizing d with
  | nil => exact .refl d
  | cons h rest ih =>
    rw [List.foldl_cons]
    refine Annotates.trans ?_ (ih _)
    split
    · exact annotates_showNote row _ d
    · exact .refl d

theorem annotates_editNote (row : Nat) (d : Desk σ) : Annotates d (d.editNote transport row) := by
  unfold editNote
  split
  · exact .refl d
  · next r _ =>
    have hsubmitted : (d.client.call (Client.fetchNoteForm transport r.name)).2.submitted = _ :=
      Client.blind_submitted.fetchNoteForm r.name d.client
    have hlistings : (d.client.call (Client.fetchNoteForm transport r.name)).2.listings = _ :=
      Client.blind_listings.fetchNoteForm r.name d.client
    split
    next outcome client hcall =>
    rw [hcall] at hsubmitted hlistings
    have hclient := annotates_client hsubmitted hlistings
    exact (hclient.trans (annotates_showNote row .loading _)).trans (annotates_showAll row _ _)

theorem annotates_pressNote (row : Nat) (d : Desk σ) : Annotates d (d.pressNote transport row) := by
  rw [pressNote]
  split
  · split
    · exact annotates_editNote row d
    · exact .refl d
  · exact .refl d

theorem annotates_moveFocus (target : Option Nat) (d : Desk σ) :
    Annotates d (d.moveFocus target) := by
  unfold moveFocus
  split
  · exact ⟨rfl, rfl, rfl, rfl, rfl, rfl, rfl⟩
  · split
    · exact ⟨rfl, rfl, rfl, rfl, rfl, rfl, rfl⟩
    · exact .refl d

theorem annotates_write (row : Nat) (text : String) (d : Desk σ) :
    Annotates d (d.write row text) := by
  rw [write]
  split
  · exact ⟨rfl, rfl, rfl, rfl, Table.marks_setNote row _ d.rows, rfl, rfl⟩
  · exact .refl d

theorem annotates_writeLetter (row : Nat) (c : Char) (d : Desk σ) :
    Annotates d (d.writeLetter row c) := by
  rw [writeLetter]
  split
  · exact ⟨rfl, rfl, rfl, rfl, Table.marks_setNote row _ d.rows, rfl, rfl⟩
  · exact .refl d

theorem annotates_save (h : d.save transport row = .ok d') : Annotates d d' := by
  unfold save at h
  split at h
  · next resource _ _ draft _ =>
    have hsubmitted :
        (d.client.call (Client.saveNote transport resource.name draft.text)).2.submitted = _ :=
      Client.blind_submitted.saveNote _ _ d.client
    have hlistings :
        (d.client.call (Client.saveNote transport resource.name draft.text)).2.listings = _ :=
      Client.blind_listings.saveNote _ _ d.client
    split at h
    · next client hcall =>
      rw [hcall] at hsubmitted hlistings
      obtain ⟨_, -, h⟩ := exists_of_bind_eq_ok h
      cases h
      exact ⟨rfl, rfl, rfl, rfl, Table.marks_setNote row _ d.rows, hsubmitted, hlistings⟩
    · next e client hcall =>
      rw [hcall] at hsubmitted hlistings
      exact (annotates_client hsubmitted hlistings).trans (annotates_of_report h)
  · cases h
    exact .refl d

/-! ### The buttons of the bar -/

/-- The request is **warranted** at this desk: its button can be clicked, it names the checked rows
in row order, and each of them allows the action. -/
structure Warranted (d : Desk σ) (r : ActionRequest) : Prop where
  clickable : d.clickable (.action r.action) = true
  resources : r.resources = d.rows.checkedNames
  allowed : ∀ row ∈ d.rows, row.checked = true →
    row.resource.allows d.bar.permissions r.action = true

/-- Only a button that is enabled can be clicked. -/
theorem enabled_of_clickable {b : BarButton} (hd : Sound d) (h : d.clickable b = true) :
    d.bar.states.get b = .enabled := by
  rw [clickable] at h
  split at h
  · next handle hfind =>
    rw [hd.agree.shown.find? hfind] at h
    exact (ButtonState.clickable_handle_iff _).mp h
  · cases h

/-- **What a click submits is warranted.** -/
theorem warranted_of_clickable {r : ActionRequest} (hd : Sound d)
    (h : d.clickable (.action r.action) = true)
    (hr : r.resources = distinct d.rows.checkedNames) : Warranted d r where
  clickable := h
  resources := hr.trans (distinct_of_nodup hd.agree.nodup_checkedNames)
  allowed := (hd.agree.allows_of_enabled (enabled_of_clickable hd h)).2

/-- When a row action can be clicked, one request is submitted, it is warranted, and whatever
becomes of it, nothing else is. -/
theorem exists_warranted {a : RowAction} (hd : Sound d)
    (h : d.clickable (.action a) = true) (transport : Http.Transport σ) :
    ∃ r : ActionRequest, r.action = a ∧ Warranted d r ∧
      (d.client.call (Client.dispatch transport a.capability d.source)).2.submitted =
        d.client.submitted ++ [r] := by
  have hne := (hd.agree.allows_of_enabled (enabled_of_clickable hd h)).1
  have hne : distinct d.rows.checkedNames ≠ [] := mt distinct_eq_nil.mp hne
  refine ⟨⟨a, distinct d.rows.checkedNames, hne⟩, rfl, warranted_of_clickable hd h rfl, ?_⟩
  have hrequest := ActionRequest.ofSelection_checked a d.rows.checkedNames
  rw [ActionRequest.ofChecked, dif_neg hne] at hrequest
  exact Client.submitted_dispatch hrequest d.client

/-- A client that was handed something to submit, and got no listing, takes the place of the
other. -/
private theorem rests_client {client : Client σ}
    (hsubmitted : client.submitted = d.client.submitted ++ new)
    (hlistings : client.listings = d.client.listings) : Rests new d { d with client } where
  follows := ⟨rfl, rfl, rfl, rfl, hsubmitted, hlistings ▸ List.prefix_rfl⟩
  sound _ hd := hd.of_marks rfl rfl hlistings

theorem exists_rests_dispatch {a : RowAction} (h : d.dispatch transport a = .ok d') :
    ∃ new, Rests new d d' ∧
      ∀ r ∈ new, r.action = a ∧ r.resources = distinct d.rows.checkedNames := by
  have hsubmitted :
      (d.client.call (Client.dispatch transport a.capability d.source)).2.submitted = _ :=
    Client.submitted_dispatch (ActionRequest.ofSelection_checked a d.rows.checkedNames) d.client
  have hlistings :
      (d.client.call (Client.dispatch transport a.capability d.source)).2.listings = _ :=
    Client.keeps_listings_dispatch a.capability d.source d.client
  refine ⟨(ActionRequest.ofChecked a d.rows.checkedNames).toList, ?_, fun r hr =>
    ActionRequest.eq_of_mem_ofChecked (Option.mem_toList.mp hr)⟩
  unfold dispatch at h
  split at h
  · next e client hcall =>
    rw [hcall] at hsubmitted hlistings
    have hreport := (annotates_of_report h).rests
    simpa using (rests_client hsubmitted hlistings).trans hreport
  · next client hcall =>
    rw [hcall] at hsubmitted hlistings
    cases h
    exact rests_client hsubmitted hlistings
  · next sent client hcall =>
    rw [hcall] at hsubmitted hlistings
    -- the request counts before the listing is fetched anew, which submits nothing
    let names := ", ".intercalate sent.resources
    have hinform := (annotates_inform s!"{a.endpoint}: {names}" { d with client }).rests
    have hrefresh := hinform.trans (rests_refresh h)
    simpa using (rests_client hsubmitted hlistings).trans hrefresh

theorem annotates_editSelected (h : d.editSelected transport = .ok d') : Annotates d d' := by
  rw [editSelected] at h
  split at h
  · cases h
  · split at h
    · cases h
      exact annotates_editNote _ d
    · cases h
      exact .refl d

theorem exists_rests_press {b : BarButton} (h : d.press transport b = .ok d') :
    ∃ new, Rests new d d' ∧ (Sound d → ∀ r ∈ new, b = .action r.action ∧ Warranted d r) := by
  unfold press at h
  split at h
  · next hclick =>
    cases b with
    | action a =>
      obtain ⟨new, hrests, hnew⟩ := exists_rests_dispatch h
      refine ⟨new, hrests, fun hd r hr => ?_⟩
      obtain ⟨rfl, hresources⟩ := hnew r hr
      exact ⟨rfl, warranted_of_clickable hd hclick hresources⟩
    | editNote =>
      exact ⟨[], (annotates_editSelected h).rests, fun _ _ hr => absurd hr List.not_mem_nil⟩
  · cases h
    exact ⟨[], (Annotates.refl d).rests, fun _ _ hr => absurd hr List.not_mem_nil⟩

/-! ### Steps -/

/-- Every key but the one that reloads keeps the desk at rest and submits nothing. -/
theorem rests_strike {k : Hotkey} (hk : k ≠ .reload)
    (h : d.strike transport files k = .ok d') : Rests [] d d' := by
  unfold strike at h
  split at h
  · next row c _ _ =>
    cases h
    exact (annotates_writeLetter row c d).rests
  · cases k with
    | refresh => exact rests_refresh h
    | reload => exact absurd rfl hk
    | selectAll => exact rests_checkAll h
    | clearSelection => exact rests_checkAll h
    | quit =>
      cases h
      exact Annotates.rests ⟨rfl, rfl, rfl, rfl, rfl, rfl, rfl⟩

/-- **Every act but a reload keeps the desk at rest**, and what it submits is warranted by the desk
that it found. -/
theorem exists_rests_step {act : Act} (hact : act ≠ .key .reload)
    (h : d.step transport files act = .ok d') :
    ∃ new, Rests new d d' ∧
      (Sound d → ∀ r ∈ new, act = .press (.action r.action) ∧ Warranted d r) := by
  have hnone : Rests [] d d' → ∃ new, Rests new d d' ∧
      (Sound d → ∀ r ∈ new, act = .press (.action r.action) ∧ Warranted d r) :=
    fun h => ⟨[], h, fun _ _ hr => absurd hr List.not_mem_nil⟩
  rcases of_step h with ⟨-, rfl⟩ | ⟨-, h⟩
  · exact hnone (Annotates.refl d).rests
  · unfold perform at h
    cases act with
    | check row checked => exact hnone (rests_check h)
    | press b =>
      obtain ⟨new, hrests, hnew⟩ := exists_rests_press h
      exact ⟨new, hrests, fun hd r hr => (hnew hd r hr).imp_left (congrArg Act.press)⟩
    | note row =>
      cases h
      exact hnone (annotates_pressNote row d).rests
    | focus target =>
      cases h
      exact hnone (annotates_moveFocus target d).rests
    | write row text =>
      cases h
      exact hnone (annotates_write row text d).rests
    | save row => exact hnone (annotates_save h).rests
    | key k =>
      have hk : k ≠ .reload := fun hk => hact (congrArg Act.key hk)
      exact hnone (rests_strike hk h)
    | tick => exact hnone (rests_refresh h)

end Lockable.Desk
