import Lockable.Desk
import Lockable.Proofs.Calls
import Lockable.Proofs.Desk.Table

/-!
# The desk at rest

Whatever the user has done, when the desk has come to rest its rows are those of the last listing
that was got, table and bar agree, and the permissions are those of the grants in effect
(`Desk.Sound`). Each act keeps that, and apart from a reload none touches settings, grants or
permissions (`Desk.Follows`), so that a press of a button finds the desk in that state. Hence no
batch is submitted that the rules refuse.

The listings that a desk gets are asked to have distinct names. A row is looked up and selected by
its name, so two rows of one name could not be told apart.
-/

namespace Lockable.Desk

variable {σ : Type} {transport : Http.Transport σ} {files : Files} {d d' d'' : Desk σ}
  {new new' : List ActionRequest}

/-! ### What holds at rest -/

/-- The entries of the last listing that was got. -/
def lastListing (d : Desk σ) : List Resource := d.client.listings.getLast?.getD []

/-- At rest the rows are those of the last listing, and table and bar agree. -/
structure Sound (d : Desk σ) : Prop where
  listed : d.rows.map Row.resource = d.lastListing
  agree : Agree d.rows d.bar

/-- No name is listed twice. -/
def ListsDistinct (d : Desk σ) : Prop :=
  ∀ listing ∈ d.client.listings, (listing.map Resource.name).Nodup

/-- The desk `d'` **follows** `d`: between the two only the requests `new` were submitted, no
listing was lost, and what the permissions rest on is as before. -/
structure Follows (new : List ActionRequest) (d d' : Desk σ) : Prop where
  settings : d'.settings = d.settings
  grants : d'.grants = d.grants
  store : d'.store = d.store
  permissions : d'.bar.permissions = d.bar.permissions
  submitted : d'.client.submitted = d.client.submitted ++ new
  listings : d.client.listings <+: d'.client.listings

namespace Follows

protected theorem refl (d : Desk σ) : Follows [] d d :=
  ⟨rfl, rfl, rfl, rfl, (List.append_nil _).symm, List.prefix_rfl⟩

protected theorem trans (h : Follows new d d') (h' : Follows new' d' d'') :
    Follows (new ++ new') d d'' where
  settings := h'.settings.trans h.settings
  grants := h'.grants.trans h.grants
  store := h'.store.trans h.store
  permissions := h'.permissions.trans h.permissions
  submitted := by rw [h'.submitted, h.submitted, List.append_assoc]
  listings := h.listings.trans h'.listings

/-- What was listed before is among what is listed after. -/
theorem listsDistinct (h : Follows new d d') (hdistinct : d'.ListsDistinct) : d.ListsDistinct :=
  fun listing hmem => hdistinct listing (h.listings.subset hmem)

end Follows

/-- A desk with the same marks, bar and listings is as sound. -/
theorem Sound.of_marks (h : Sound d) (hmarks : d'.rows.marks = d.rows.marks)
    (hbar : d'.bar = d.bar) (hlistings : d'.client.listings = d.client.listings) : Sound d' where
  listed := by
    rw [lastListing, hlistings, Table.resources_eq_marks, hmarks, ← Table.resources_eq_marks]
    exact h.listed
  agree := hbar ▸ h.agree.of_marks hmarks

/-- An act that submits `new` and keeps the desk **at rest**, if no name is listed twice. -/
structure Rests (new : List ActionRequest) (d d' : Desk σ) : Prop where
  follows : Follows new d d'
  sound : d'.ListsDistinct → Sound d → Sound d'

protected theorem Rests.trans (h : Rests new d d') (h' : Rests new' d' d'') :
    Rests (new ++ new') d d'' where
  follows := h.follows.trans h'.follows
  sound hdistinct hd := h'.sound hdistinct (h.sound (h'.follows.listsDistinct hdistinct) hd)

/-- An act that concerns the notes at most: table and bar are as before, and so is what was got from
the server and what was handed to it. -/
structure Annotates (d d' : Desk σ) : Prop where
  settings : d'.settings = d.settings
  grants : d'.grants = d.grants
  store : d'.store = d.store
  bar : d'.bar = d.bar
  marks : d'.rows.marks = d.rows.marks
  submitted : d'.client.submitted = d.client.submitted
  listings : d'.client.listings = d.client.listings

namespace Annotates

protected theorem refl (d : Desk σ) : Annotates d d := ⟨rfl, rfl, rfl, rfl, rfl, rfl, rfl⟩

protected theorem trans (h : Annotates d d') (h' : Annotates d' d'') : Annotates d d'' where
  settings := h'.settings.trans h.settings
  grants := h'.grants.trans h.grants
  store := h'.store.trans h.store
  bar := h'.bar.trans h.bar
  marks := h'.marks.trans h.marks
  submitted := h'.submitted.trans h.submitted
  listings := h'.listings.trans h.listings

theorem rests (h : Annotates d d') : Rests [] d d' where
  follows := {
    settings := h.settings
    grants := h.grants
    store := h.store
    permissions := by rw [h.bar]
    submitted := by rw [h.submitted, List.append_nil]
    listings := h.listings ▸ List.prefix_rfl }
  sound _ hd := hd.of_marks h.marks h.bar h.listings

end Annotates

/-! ### Toasts -/

theorem annotates_inform (message : String) (d : Desk σ) : Annotates d (d.inform message) :=
  ⟨rfl, rfl, rfl, rfl, rfl, rfl, rfl⟩

/-- A report changes nothing but the toasts. -/
theorem eq_of_report {title : String} {e : Failure} (h : d.report title e = .ok d') :
    ∃ toasts, d' = { d with toasts } := by
  rw [report] at h
  split at h
  · cases h
    exact ⟨_, rfl⟩
  · cases h

/-- Toasts are drawn when the screen takes each message. -/
theorem drawToasts_eq_ok_iff {drawn : Nat} : d.drawToasts drawn = .ok d' ↔
    (∀ t ∈ d.toasts.drop drawn, d.screen.Accepts t.message) ∧ d = d' := by
  have hread : d.screen.readAll ((d.toasts.drop drawn).map Toast.message) = .ok () ↔
      ∀ t ∈ d.toasts.drop drawn, d.screen.Accepts t.message := by
    rw [Marks.readAll_eq_ok_iff, List.forall_mem_map]
  rw [drawToasts, ← hread]
  cases d.screen.readAll ((d.toasts.drop drawn).map Toast.message) with
  | error e => exact iff_of_false nofun fun h => nomatch h.1
  | ok _ => exact ⟨fun h => ⟨rfl, Except.ok.inj h⟩, fun h => congrArg Except.ok h.2⟩

/-- What a report comes to once its toast is drawn: a message that the screen refuses ends the desk
in place of the failure that it tells of. -/
theorem report_drawn (title : String) (e : Failure) (d : Desk σ) :
    (d.report title e >>= fun d' => d'.drawToasts d.toasts.length) =
      if e.isReported then
        match d.screen.failure? e.message with
        | none =>
          .ok { d with toasts := d.toasts ++ [{ severity := .error, title, message := e.message }] }
        | some refusal => .error refusal
      else .error e := by
  rw [report]
  split
  · let t : Toast := { severity := .error, title, message := e.message }
    have hnew : (d.toasts ++ [t]).drop d.toasts.length = [t] := List.drop_left
    change drawToasts d.toasts.length { d with toasts := d.toasts ++ [t] } = _
    rw [drawToasts, hnew, List.map_singleton, Marks.readAll_singleton, Marks.read]
    dsimp only [t]
    cases d.screen.failure? e.message <;> rfl
  · rfl

/-- A step on a closed desk does nothing; on any other it is what the act does, if the toasts of the
act can be drawn. -/
theorem of_step {act : Act} (h : d.step transport files act = .ok d') :
    d.closed = true ∧ d = d' ∨ d.closed = false ∧ d.perform transport files act = .ok d' := by
  unfold step at h
  split at h
  · next hclosed => exact .inl ⟨hclosed, Except.ok.inj h⟩
  · next hopen =>
    obtain ⟨d'', hperform, hdraw⟩ := exists_of_bind_eq_ok h
    obtain ⟨-, rfl⟩ := drawToasts_eq_ok_iff.mp hdraw
    exact .inr ⟨Bool.eq_false_iff.mpr hopen, hperform⟩

theorem annotates_of_report {title : String} {e : Failure} (h : d.report title e = .ok d') :
    Annotates d d' := by
  obtain ⟨toasts, rfl⟩ := eq_of_report h
  exact ⟨rfl, rfl, rfl, rfl, rfl, rfl, rfl⟩

/-- A call that keeps what was submitted and listed. -/
theorem annotates_client {client : Client σ} (hsubmitted : client.submitted = d.client.submitted)
    (hlistings : client.listings = d.client.listings) : Annotates d { d with client } :=
  ⟨rfl, rfl, rfl, rfl, rfl, hsubmitted, hlistings⟩

/-! ### The listing -/

/-- Recording a listing changes nothing but the snapshots. -/
theorem recordAll_eq (listing : List Resource) (bar : ActionBar) :
    listing.foldl (fun bar r => bar.record r) bar =
      { bar with
        snapshots := listing.foldl (fun snapshots r => Snapshots.record r snapshots)
          bar.snapshots } := by
  induction listing generalizing bar with
  | nil => rfl
  | cons r rest ih => rw [List.foldl_cons, ih]; rfl

/-- The bar with a listing recorded. -/
def recorded (listing : List Resource) (bar : ActionBar) : ActionBar :=
  { bar with
    snapshots := listing.foldl (fun snapshots r => Snapshots.record r snapshots) bar.snapshots }

/-- A listing of which rows can be made is shown. -/
theorem draw_of_redraw {listing : List Resource} {rows : Table}
    (h : d.rows.redraw d.screen d.bar.noteVisible listing = .ok rows) :
    d.draw listing = .ok { d with
      rows
      bar := ((recorded listing d.bar).refresh rows.source).1
      focus := none } := by
  have hok : ((recorded listing d.bar).refresh rows.source).2 = .ok () :=
    ActionBar.recompute_ok_iff.mpr ⟨_, rfl⟩
  rw [draw, h]
  dsimp only
  rw [recordAll_eq]
  -- the desk is named as it stands when the bar is asked, so that the outcome can be put in
  change ({ d with rows, bar := recorded listing d.bar, focus := none } : Desk σ).adopt
    ((recorded listing d.bar).refresh rows.source) = _
  rw [adopt, hok]
  rfl

/-- A listing that is shown is what the table then consists of. If its names are distinct, the bar
agrees with it. -/
theorem exists_of_draw {listing : List Resource} (h : d.draw listing = .ok d') :
    ∃ rows bar, d' = { d with rows, bar, focus := none } ∧ rows.map Row.resource = listing ∧
      bar.permissions = d.bar.permissions ∧
      ((listing.map Resource.name).Nodup → Agree d.rows d.bar → Agree rows bar) := by
  cases hrows : d.rows.redraw d.screen d.bar.noteVisible listing with
  | error e =>
    rw [draw, hrows] at h
    cases h
  | ok rows =>
    have hresources := Table.resources_redraw hrows
    rw [draw_of_redraw hrows] at h
    cases h
    refine ⟨rows, _, rfl, hresources, (ActionBar.adjusts_refresh rows.source _).permissions,
      fun hdistinct hd => ?_⟩
    -- the bar is ready for the new rows, since all of them were just recorded
    have hready : Ready rows (recorded listing d.bar) := by
      refine ⟨?_, fun row hrow => ?_, hd.hidden, hd.shown⟩
      · rw [← hresources, List.map_map] at hdistinct
        exact hdistinct
      · exact Snapshots.get?_recordAll_of_nodup hdistinct
          (hresources ▸ List.mem_map_of_mem hrow) _
    exact (hready.run .refresh hready fun _ hr => by cases hr).2.1

/-- Fetching the listing, whether it is had or not, keeps the desk at rest. -/
theorem rests_refresh (h : d.refresh transport = .ok d') : Rests [] d d' := by
  have hsubmitted : (d.client.call (Client.listResources transport _)).2.submitted =
      d.client.submitted :=
    Client.keeps_submitted_listResources (Settings.textOrNull d.settings.session.user) d.client
  have hlistings : (d.client.call (Client.listResources transport _)).2.listings = _ :=
    Client.lists_listResources (Settings.textOrNull d.settings.session.user) d.client
  unfold refresh at h
  dsimp only at h
  split at h
  · next listing client hcall =>
    rw [hcall] at hsubmitted hlistings
    have hlistings : client.listings = d.client.listings ++ [listing] := hlistings
    obtain ⟨rows, bar, rfl, hresources, hp, hagree⟩ := exists_of_draw (d := { d with client }) h
    refine ⟨⟨rfl, rfl, rfl, hp, ?_, ?_⟩, fun hdistinct hd => ⟨?_, ?_⟩⟩
    · exact hsubmitted.trans (List.append_nil _).symm
    · exact hlistings ▸ List.prefix_append _ _
    · rw [lastListing, hresources, hlistings, List.getLast?_concat, Option.getD_some]
    · exact hagree (hdistinct listing (hlistings ▸ List.mem_concat_self)) hd.agree
  · next e client hcall =>
    rw [hcall] at hsubmitted hlistings
    have hlistings : client.listings = d.client.listings := hlistings.trans (List.append_nil _)
    exact ((annotates_client hsubmitted hlistings).trans (annotates_of_report h)).rests

end Lockable.Desk
