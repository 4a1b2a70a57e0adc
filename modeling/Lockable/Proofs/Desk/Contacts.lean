import Lockable.Proofs.Desk.Reachable

/-!
# What a desk asks its client for

A desk does four things with its client: it lists the resources, fetches and saves notes, and
dispatches actions (`Client.Contacted`). Whatever the user does comes to some of these calls, one
after another, and leaves the client alone otherwise; so what each of the calls keeps is kept by
every run (`Desk.Leads.contacted`).
-/

namespace Lockable

/-- A client has been asked for listings, notes and actions, and this has become of it. The
transport may be another each time. -/
inductive Client.Contacted {σ : Type} (c : Client σ) : Client σ → Prop
  | refl : Contacted c c
  | list {c' : Client σ} (h : Contacted c c') (transport : Http.Transport σ) (user : Json) :
    Contacted c (c'.call (listResources transport user)).2
  | noteForm {c' : Client σ} (h : Contacted c c') (transport : Http.Transport σ) (name : String) :
    Contacted c (c'.call (fetchNoteForm transport name)).2
  | saveNote {c' : Client σ} (h : Contacted c c') (transport : Http.Transport σ)
      (name note : String) :
    Contacted c (c'.call (saveNote transport name note)).2
  | dispatch {c' : Client σ} (h : Contacted c c') (transport : Http.Transport σ)
      (capability : Capability) (source : Option Source) :
    Contacted c (c'.call (dispatch transport capability source)).2

theorem Client.Contacted.trans {σ : Type} {c c' c'' : Client σ} (h : Contacted c c')
    (h' : Contacted c' c'') : Contacted c c'' := by
  induction h' with
  | refl => exact h
  | list _ transport user ih => exact ih.list transport user
  | noteForm _ transport name ih => exact ih.noteForm transport name
  | saveNote _ transport name note ih => exact ih.saveNote transport name note
  | dispatch _ transport capability source ih => exact ih.dispatch transport capability source

namespace Desk

open Client (Contacted)

variable {σ : Type} {transport : Http.Transport σ} {files : Files} {d d' d'' : Desk σ} {row : Nat}

/-! ### One act -/

theorem client_report {title : String} {e : Failure} (h : d.report title e = .ok d') :
    d'.client = d.client := by
  obtain ⟨toasts, rfl⟩ := eq_of_report h
  rfl

theorem contacted_refresh (h : d.refresh transport = .ok d') : Contacted d.client d'.client := by
  have hlist : Contacted d.client (d.client.call (Client.listResources transport
      (Settings.textOrNull d.settings.session.user))).2 := Contacted.refl.list transport _
  unfold refresh at h
  dsimp only at h
  split at h
  · next listing client hcall =>
    obtain ⟨rows, bar, rfl, -⟩ := exists_of_draw h
    rwa [hcall] at hlist
  · next e client hcall =>
    rw [hcall] at hlist
    exact client_report h ▸ hlist

theorem client_showNote (row : Nat) (what : Note.Display) (d : Desk σ) :
    (d.showNote row what).client = d.client := by
  cases what with
  | loading => rfl
  | form form => rfl
  | focus found =>
    rw [showNote]
    split <;> rfl

theorem client_showAll (row : Nat) (happenings : List Note.Happening) (d : Desk σ) :
    (d.showAll row happenings).client = d.client := by
  rw [showAll]
  induction happenings generalizing d with
  | nil => rfl
  | cons h rest ih =>
    rw [List.foldl_cons, ih]
    split
    · exact client_showNote row _ d
    · rfl

theorem client_moveFocus (target : Option Nat) (d : Desk σ) :
    (d.moveFocus target).client = d.client := by
  unfold moveFocus
  split
  · rfl
  · split <;> rfl

theorem contacted_editNote (row : Nat) (d : Desk σ) :
    Contacted d.client (d.editNote transport row).client := by
  unfold editNote
  split
  · exact .refl
  · next r _ =>
    split
    next outcome client hcall =>
    rw [client_showAll, client_showNote]
    have hfetch : Contacted d.client (d.client.call (Client.fetchNoteForm transport r.name)).2 :=
      Contacted.refl.noteForm transport r.name
    rwa [hcall] at hfetch

theorem contacted_save (h : d.save transport row = .ok d') : Contacted d.client d'.client := by
  unfold save at h
  split at h
  · next resource _ _ draft _ =>
    have hsave : Contacted d.client
        (d.client.call (Client.saveNote transport resource.name draft.text)).2 :=
      Contacted.refl.saveNote transport _ _
    split at h
    · next client hcall =>
      obtain ⟨_, -, h⟩ := exists_of_bind_eq_ok h
      cases h
      rwa [hcall] at hsave
    · next e client hcall =>
      rw [hcall] at hsave
      exact client_report h ▸ hsave
  · cases h
    exact .refl

theorem contacted_dispatch {a : RowAction} (h : d.dispatch transport a = .ok d') :
    Contacted (d.client.call (Client.dispatch transport a.capability d.source)).2 d'.client := by
  unfold dispatch at h
  split at h
  · next e client hcall =>
    rw [hcall, client_report h]
    exact .refl
  · next client hcall =>
    cases h
    rw [hcall]
    exact .refl
  · next r client hcall =>
    rw [hcall]
    exact contacted_refresh h

theorem contacted_editSelected (h : d.editSelected transport = .ok d') :
    Contacted d.client d'.client := by
  rw [editSelected] at h
  split at h
  · cases h
  · split at h
    · cases h
      exact contacted_editNote _ d
    · cases h
      exact .refl

theorem contacted_press {b : BarButton} (h : d.press transport b = .ok d') :
    Contacted d.client d'.client := by
  unfold press at h
  split at h
  · cases b with
    | action a =>
      exact (Contacted.refl.dispatch transport a.capability d.source).trans (contacted_dispatch h)
    | editNote => exact contacted_editSelected h
  · cases h
    exact .refl

/-- Boxes that are checked are announced to the bar only. -/
theorem client_announce {checked : Bool} {rs : List Resource}
    (h : announce checked rs d = .ok d') : d'.client = d.client := by
  obtain ⟨bar, rfl, -⟩ := exists_of_announce h
  rfl

theorem client_check {checked : Bool} (h : d.check row checked = .ok d') :
    d'.client = d.client := by
  rw [check] at h
  split at h
  · cases h
    rfl
  · split at h
    · cases h
      rfl
    · let rows : Table := d.rows.modify row fun r => { r with checked }
      exact client_announce (d := { d with rows }) h

/-! ### Runs -/

theorem contacted_strike {k : Hotkey} (hk : k ≠ .reload)
    (h : d.strike transport files k = .ok d') : Contacted d.client d'.client := by
  unfold strike at h
  split at h
  · next row c _ _ =>
    cases h
    rw [writeLetter]
    split <;> exact .refl
  · cases k with
    | refresh => exact contacted_refresh h
    | reload => exact absurd rfl hk
    | selectAll =>
      rw [client_announce h]
      exact .refl
    | clearSelection =>
      rw [client_announce h]
      exact .refl
    | quit =>
      cases h
      exact .refl

/-- **An act comes to some calls of the client**, and leaves it alone otherwise. -/
theorem contacted_step {act : Act} (h : d.step transport files act = .ok d') :
    Contacted d.client d'.client := by
  by_cases hact : act = .key .reload
  · subst hact
    rw [(sound_step_reload h).1]
    exact .refl
  · rcases of_step h with ⟨-, rfl⟩ | ⟨-, h⟩
    · exact .refl
    · unfold perform at h
      cases act with
      | check row checked =>
        rw [client_check h]
        exact .refl
      | press b => exact contacted_press h
      | note row =>
        cases h
        rw [pressNote]
        split
        · split
          · exact contacted_editNote row d
          · exact .refl
        · exact .refl
      | focus target =>
        cases h
        rw [client_moveFocus]
        exact .refl
      | write row text =>
        cases h
        rw [write]
        split <;> exact .refl
      | save row => exact contacted_save h
      | key k => exact contacted_strike (fun hk => hact (hk ▸ rfl)) h
      | tick => exact contacted_refresh h

theorem Leads.contacted (h : Leads d d') : Contacted d.client d'.client := by
  induction h with
  | refl => exact .refl
  | step _ hstep ih => exact ih.trans (contacted_step hstep)

/-- What the desk of a launch has asked its client for. -/
theorem Reachable.contacted {launch : Launch} (h : Reachable launch d) :
    ∃ server client, Client.start launch.settings.server server launch.reading = .ok client ∧
      Contacted client d.client := by
  obtain ⟨transport, server, d₀, hstart, hleads⟩ := h
  obtain ⟨client, d₁, hclient, hrefresh, hload⟩ := exists_of_start hstart
  obtain ⟨p, -, hgranted⟩ := exists_of_loadGrants hload
  obtain ⟨rows, bar, rfl⟩ := hgranted.eq
  exact ⟨server, client, hclient, (contacted_refresh hrefresh).trans hleads.contacted⟩

end Desk

end Lockable
