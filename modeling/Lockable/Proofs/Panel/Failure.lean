import Lockable.ActionBar.Bench
import Lockable.Proofs.ActionBar

/-!
# What a failure leaves

A table may be of any **kind** (`TableKind`): it answers as it likes each time it is asked, with
names or by breaking, and may be another afterwards. A `Stand` is an action bar beside such a table,
with the note buttons of its rows; a `Bench` is the stand whose table answers the same until it is
changed (`Bench.does_load` and the lemmas before it).

No operation takes back what it has done when the table breaks in the middle. What is left then is
known exactly, since each operation asks the table at few points:

* a **load** that fails has put the new permissions in place at most, and the bar at the baseline
  for them; nothing is enabled that was not, and the note buttons wait for the end;
* a **recomputation** enables what is shown before it asks, and takes away what the resources of the
  first answer do not allow before it asks again. If it fails, the buttons are left there.
-/

namespace Lockable

/-- A kind of table, by its states: how it answers when it is asked for the checked names, in row
order, and when it is told to uncheck every row, and what becomes of it. -/
structure TableKind (τ : Type) where
  checked : τ → Except SourceFailure (List String) × τ
  uncheck : τ → Except SourceFailure Unit × τ

namespace TableKind

variable {τ : Type} {kind : TableKind τ}

/-- Asks for the names of the selected rows, of which there are none while there is no table. -/
def selection (kind : TableKind τ) (t : τ) : Except Failure (List String) × τ :=
  match kind.checked t with
  | (.ok names, t) => (.ok (distinct names), t)
  | (.error .unavailable, t) => (.ok [], t)
  | (.error (.broken cause), t) => (.error (.brokenSource cause), t)

/-- Clears the selection, if there is a table. -/
def cleared (kind : TableKind τ) (t : τ) : Except Failure Unit × τ :=
  match kind.uncheck t with
  | (.ok (), t) => (.ok (), t)
  | (.error .unavailable, t) => (.ok (), t)
  | (.error (.broken cause), t) => (.error (.brokenSource cause), t)

/-- The table **breaks off** when it is asked for the selection: at once, or when it is asked again.
What it has told of by then are the snapshots of the first answer. -/
inductive BreaksOff (kind : TableKind τ) (snapshots : Snapshots) (t : τ) :
    List Resource → Failure → τ → Prop
  | first {e : Failure} {t' : τ} (h : kind.selection t = (.error e, t')) :
    BreaksOff kind snapshots t [] e t'
  | second {e : Failure} {t' t'' : τ} {names : List String}
      (h : kind.selection t = (.ok names, t')) (h' : kind.selection t' = (.error e, t'')) :
    BreaksOff kind snapshots t (Snapshots.selected names snapshots) e t''

end TableKind

/-- An action bar beside a table, and the note buttons of the rows (shown or not). -/
structure Stand (τ : Type) where
  bar : ActionBar := {}
  table : τ
  noteButtons : List Bool := []

namespace Stand

variable {τ : Type} {kind : TableKind τ} {s s' : Stand τ} {e : Failure} {raw : Json}

open ActionBar (baseline restrictAll)

/-! ### Operations -/

/-- Takes away what the selected rows do not allow. The table is asked again for whether anything is
selected at all, unless no row action is left. -/
def recompute (kind : TableKind τ) (s : Stand τ) : Stand τ × Except Failure Unit :=
  match kind.selection s.table with
  | (.error e, table) => ({ s with table }, .error e)
  | (.ok names, table) =>
    match restrictAll (Snapshots.selected names s.bar.snapshots) s.bar with
    | (bar, true) => ({ s with bar, table }, .ok ())
    | (bar, false) =>
      match kind.selection table with
      | (.error e, table) => ({ s with bar, table }, .error e)
      | (.ok names, table) =>
        ({ s with bar := if names.isEmpty then bar.disableShown else bar, table }, .ok ())

/-- Recomputes the bar from the snapshots of the selected rows. -/
def refresh (kind : TableKind τ) (s : Stand τ) : Stand τ × Except Failure Unit :=
  recompute kind { s with bar := s.bar.enableShown }

/-- The row of this resource was checked or unchecked. -/
def change (kind : TableKind τ) (r : Resource) (checked : Bool) (s : Stand τ) :
    Stand τ × Except Failure Unit :=
  let s := { s with bar := (s.bar.record r).enableShown }
  if checked then
    let s := { s with bar := s.bar.restrict r }
    if s.bar.exhausted then (s, .ok ()) else recompute kind s
  else recompute kind s

/-- Loads a permission mapping, clears the selection, goes back to the baseline and shows the note
buttons accordingly. -/
def load (kind : TableKind τ) (raw : Json) (s : Stand τ) : Stand τ × Except Failure Unit :=
  match Permissions.derive raw with
  | .error e => (s, .error e)
  | .ok permissions =>
    let s := { s with bar := { s.bar with permissions } }
    match kind.cleared s.table with
    | (.error e, table) => ({ s with table }, .error e)
    | (.ok (), table) =>
      let bar := s.bar.update fun b => some (baseline permissions b)
      match recompute kind { s with bar, table } with
      | (s, .error e) => (s, .error e)
      | (s, .ok ()) =>
        let noteVisible := permissions.allows .edit
        ({ s with
            bar := { s.bar with noteVisible }
            noteButtons := s.noteButtons.map fun _ => noteVisible }, .ok ())

end Stand

/-! ### The table of a bench -/

/-- A table that answers the same until it is changed. -/
def Source.kind : TableKind (Option Source) where
  checked
    | none => (.error .unavailable, none)
    | some s => (s.failure.elim (.ok s.checked) .error, some s)
  uncheck
    | none => (.error .unavailable, none)
    | some s =>
      match s.failure with
      | none => (.ok (), some { s with checked := [] })
      | some failure => (.error failure, some s)

theorem Source.selection_kind (source : Option Source) :
    Source.kind.selection source = (Source.selection source, source) := by
  rcases source with _ | ⟨checked, _ | _ | cause⟩ <;> rfl

theorem Source.cleared_kind (source : Option Source) :
    Source.kind.cleared source = match Source.cleared source with
      | .ok source => (.ok (), source)
      | .error e => (.error e, source) := by
  rcases source with _ | ⟨checked, _ | _ | cause⟩ <;> rfl

namespace Stand

/-- With such a table an operation is that of the bar. -/
theorem recompute_kind (s : Stand (Option Source)) :
    recompute Source.kind s =
      ({ s with bar := (s.bar.recompute s.table).1 }, (s.bar.recompute s.table).2) := by
  simp only [recompute, ActionBar.recompute, Source.selection_kind]
  rcases hsel : Source.selection s.table with e | names
  · rfl
  · dsimp only
    rcases ActionBar.restrictAll (Snapshots.selected names s.bar.snapshots) s.bar with ⟨bar, _ | _⟩
    · dsimp only
      rw [hsel]
    · rfl

theorem change_kind (r : Resource) (checked : Bool) (s : Stand (Option Source)) :
    change Source.kind r checked s =
      ({ s with bar := (s.bar.selectionChanged r checked s.table).1 },
        (s.bar.selectionChanged r checked s.table).2) := by
  simp only [change, ActionBar.selectionChanged, recompute_kind]
  cases checked with
  | false => rfl
  | true =>
    simp only [if_true]
    split <;> rfl

theorem load_kind (raw : Json) (s : Stand (Option Source)) :
    load Source.kind raw s = match s.bar.load raw s.table with
      | ((bar, table), .error e) => ({ s with bar, table }, .error e)
      | ((bar, table), .ok ()) =>
        ({ s with bar, table, noteButtons := s.noteButtons.map fun _ => bar.noteVisible },
          .ok ()) := by
  simp only [load, ActionBar.load, Source.cleared_kind, recompute_kind]
  rcases Permissions.derive raw with e | p
  · rfl
  · dsimp only
    rcases Source.cleared s.table with e | source
    · rfl
    · dsimp only
      generalize ActionBar.update (fun b => some (ActionBar.baseline p b)) _ = start
      rcases start.recompute source with ⟨bar, e | _⟩ <;> rfl

end Stand

namespace Bench

/-- The stand that a bench is. -/
def stand (b : Bench) : Stand (Option Source) := ⟨b.bar, b.source, b.noteButtons⟩

/-- The step **does** the operation to the stand, with the same outcome. -/
def Does (b : Bench) (step : Step)
    (operation : Stand (Option Source) → Stand (Option Source) × Except Failure Unit) : Prop :=
  (b.step step).1.stand = (operation b.stand).1 ∧
    (b.step step).2 = (operation b.stand).2.map fun _ => .done

theorem does_refresh (b : Bench) : Does b .refresh (Stand.refresh Source.kind) := by
  rw [Does, Stand.refresh, Stand.recompute_kind]
  exact ⟨rfl, rfl⟩

theorem does_change {payload : Json} {r : Resource} (h : Resource.fromSnapshot payload = .ok r)
    (checked : Bool) (b : Bench) :
    Does b (.change payload checked) (Stand.change Source.kind r checked) := by
  rw [Does, step, withResource, h, Stand.change_kind]
  exact ⟨rfl, rfl⟩

/-- Clearing neither attaches a table nor takes one away. -/
theorem source_of_cleared {b : Bench} {source : Option Source}
    (h : Source.cleared b.source = .ok source) :
    (if b.attached then some (source.getD b.table) else none) = source := by
  rw [Bench.source] at h
  split at h
  · next hattached =>
    rw [if_pos hattached]
    rw [Source.cleared] at h
    split at h <;> cases h <;> rfl
  · next hattached =>
    cases h
    rw [if_neg hattached]

theorem does_load (raw : Json) (b : Bench) :
    Does b (.load raw) (Stand.load Source.kind raw) := by
  have hbar : b.stand.bar = b.bar := rfl
  have htable : b.stand.table = b.source := rfl
  rw [Does, step, Stand.load_kind, hbar, htable]
  rcases ActionBar.load_cases raw b.source b.bar with
    ⟨e, h⟩ | ⟨p, e, h⟩ | ⟨p, cleared, after, -, hcleared, h, -⟩ <;> rw [h]
  · exact ⟨rfl, rfl⟩
  · exact ⟨rfl, rfl⟩
  · refine ⟨?_, rfl⟩
    dsimp only
    rw [← source_of_cleared hcleared]
    simp only [stand, Bench.source]
    split <;> rfl

end Bench

/-! ### Where a recomputation is left -/

namespace ActionBar

variable {bar after : ActionBar} {seen : List Resource}

/-- The state of a button that is shown, once everything shown was enabled and these resources were
gone through. -/
def left (p : Permissions) (seen : List Resource) : BarButton → ButtonState
  | .action a => if seen.all (·.allows p a) then .enabled else .disabled
  | .editNote => .enabled

theorem left_ne_hidden (p : Permissions) (seen : List Resource) (b : BarButton) :
    left p seen b ≠ .hidden := by
  cases b with
  | editNote => simp [left]
  | action a =>
    rw [left]
    split <;> decide

theorem left_concat (p : Permissions) (seen : List Resource) (r : Resource) (a : RowAction) :
    left p (seen ++ [r]) (.action a) =
      if r.allows p a then left p seen (.action a) else .disabled := by
  by_cases h : r.allows p a = true <;> simp [left, h]

/-- A button on the screen follows its state unless it was hidden, and stays as it is if the bar has
no state for it. -/
def follow (before after : ButtonStates) (e : Capability × ButtonHandle) :
    Capability × ButtonHandle :=
  match BarButton.ofCapability? e.1 with
  | some b => if before.get b = .hidden then e else (e.1, (after.get b).handle)
  | none => e

/-- The bar was **left** after it had enabled what is shown and gone through these resources. -/
structure LeftAfter (seen : List Resource) (bar after : ActionBar) : Prop where
  permissions : after.permissions = bar.permissions
  snapshots : after.snapshots = bar.snapshots
  noteVisible : after.noteVisible = bar.noteVisible
  states : ∀ b, after.states.get b =
    if bar.states.get b = .hidden then .hidden else left bar.permissions seen b
  handles : after.handles = bar.handles.map (follow bar.states after.states)

theorem leftAfter_enableShown (bar : ActionBar) : LeftAfter [] bar bar.enableShown where
  permissions := rfl
  snapshots := rfl
  noteVisible := rfl
  states b := by
    rw [enableShown, get_update]
    cases b <;> split <;> simp_all [left]
  handles := by
    refine List.map_congr_left fun e _ => ?_
    rw [follow]
    cases hb : BarButton.ofCapability? e.1 with
    | none => rfl
    | some b =>
      by_cases hhidden : bar.states.get b = .hidden
      · simp [hhidden]
      · simp [hhidden, enableShown]

/-- The screen goes on to follow the states as long as no button is touched that was hidden. -/
theorem handles_update_follow {before : ButtonStates} {change : BarButton → Option ButtonState}
    {handles : List (Capability × ButtonHandle)}
    (h : bar.handles = handles.map (follow before bar.states))
    (hchange : ∀ b, before.get b = .hidden → change b = none) :
    (bar.update change).handles = handles.map (follow before (bar.update change).states) := by
  rw [update]
  dsimp only
  rw [h, List.map_map]
  refine List.map_congr_left fun e _ => ?_
  rw [Function.comp_apply, follow, follow]
  cases hb : BarButton.ofCapability? e.1 with
  | none => simp [hb]
  | some b =>
    by_cases hhidden : before.get b = .hidden
    · simp [hb, hhidden, hchange b hhidden]
    · cases hc : change b <;> simp [hb, hhidden, hc]

namespace LeftAfter

/-- One more resource is gone through. -/
protected theorem restrict (h : LeftAfter seen bar after) (r : Resource) :
    LeftAfter (seen ++ [r]) bar (after.restrict r) where
  permissions := h.permissions
  snapshots := h.snapshots
  noteVisible := h.noteVisible
  states b := by
    rw [ActionBar.restrict, get_update, h.permissions]
    cases b with
    | editNote => exact h.states .editNote
    | action a =>
      dsimp only
      rw [h.states]
      by_cases hhidden : bar.states.get (.action a) = .hidden
      · simp [hhidden]
      · rw [left_concat, if_neg hhidden, if_neg hhidden]
        by_cases hr : r.allows bar.permissions a = true <;> simp [hr, left_ne_hidden]
  handles := by
    refine handles_update_follow h.handles fun b hhidden => ?_
    cases b with
    | editNote => rfl
    | action a => simp [h.states, hhidden]

/-- All of these resources are gone through, since the bar does not stop early. -/
protected theorem restrictAll {after' : ActionBar} {rs : List Resource}
    (h : LeftAfter seen bar after) (hrun : restrictAll rs after = (after', false)) :
    LeftAfter (seen ++ rs) bar after' := by
  induction rs generalizing seen after with
  | nil =>
    cases hrun
    rwa [List.append_nil]
  | cons r rest ih =>
    rw [ActionBar.restrictAll] at hrun
    split at hrun
    · -- an early stop is no failure
      cases hrun
    · have hrest := ih (h.restrict r) hrun
      rwa [List.append_assoc] at hrest

end LeftAfter

end ActionBar

namespace Stand

variable {τ : Type} {kind : TableKind τ} {s s' : Stand τ} {e : Failure} {raw : Json} {r : Resource}
  {checked : Bool}

open ActionBar (LeftAfter baseline restrictAll)

/-- **Where a recomputation breaks off**: before the table is asked, or after the resources of its
first answer. -/
theorem recompute_eq_error_iff :
    recompute kind s = (s', .error e) ↔ ∃ seen t bar,
      kind.BreaksOff s.bar.snapshots s.table seen e t ∧ restrictAll seen s.bar = (bar, false) ∧
        s' = { s with bar, table := t } := by
  constructor
  · intro h
    rw [recompute] at h
    split at h
    · next hfirst =>
      cases h
      exact ⟨[], _, _, .first hfirst, rfl, rfl⟩
    · next hfirst =>
      split at h
      · cases h
      · next hrun =>
        split at h
        · next hsecond =>
          cases h
          exact ⟨_, _, _, .second hfirst hsecond, hrun, rfl⟩
        · cases h
  · rintro ⟨seen, t, bar, hbreaks, hrun, rfl⟩
    cases hbreaks with
    | first h =>
      cases hrun
      rw [recompute, h]
    | second h h' =>
      rw [recompute, h]
      dsimp only
      rw [hrun]
      dsimp only
      rw [h']

/-- Where a refresh breaks off. -/
theorem exists_left_of_refresh (h : s.refresh kind = (s', .error e)) :
    s'.noteButtons = s.noteButtons ∧ ∃ seen,
      kind.BreaksOff s.bar.snapshots s.table seen e s'.table ∧ LeftAfter seen s.bar s'.bar := by
  obtain ⟨seen, t, bar, hbreaks, hrun, rfl⟩ := recompute_eq_error_iff.mp h
  exact ⟨rfl, seen, hbreaks, (ActionBar.leftAfter_enableShown s.bar).restrictAll hrun⟩

/-- Where the report of a row breaks off. A row that is reported as checked was gone through
first. -/
theorem exists_left_of_change (h : s.change kind r checked = (s', .error e)) :
    s'.noteButtons = s.noteButtons ∧ ∃ seen,
      kind.BreaksOff (Snapshots.record r s.bar.snapshots) s.table seen e s'.table ∧
        LeftAfter ((if checked then [r] else []) ++ seen) (s.bar.record r) s'.bar := by
  have hstart := ActionBar.leftAfter_enableShown (s.bar.record r)
  -- only a row that is reported as checked is gone through before the table is asked
  cases checked with
  | false =>
    obtain ⟨seen, t, bar, hbreaks, hrun, rfl⟩ := recompute_eq_error_iff.mp h
    exact ⟨rfl, seen, hbreaks, hstart.restrictAll hrun⟩
  | true =>
    rw [change] at h
    dsimp only at h
    rw [if_pos rfl] at h
    split at h
    · cases h
    · obtain ⟨seen, t, bar, hbreaks, hrun, rfl⟩ := recompute_eq_error_iff.mp h
      exact ⟨rfl, seen, hbreaks, (hstart.restrict r).restrictAll hrun⟩

/-- Where nothing is enabled, the bar stops at the first resource. -/
theorem eq_nil_of_restrictAll {bar after : ActionBar} {seen : List Resource}
    (hbar : ∀ b, bar.states.get b ≠ .enabled) (h : restrictAll seen bar = (after, false)) :
    seen = [] := by
  cases seen with
  | nil => rfl
  | cons r rest =>
    have hstop : (bar.restrict r).exhausted = true := ActionBar.exhausted_iff.mpr fun a henabled =>
      hbar _ ((ActionBar.enabled_restrict r bar a).mp henabled).1
    rw [restrictAll, if_pos hstop] at h
    cases h

/-- Nothing is enabled at the baseline. -/
theorem not_enabled_baseline (p : Permissions) (bar : ActionBar) (b : BarButton) :
    (bar.update fun b => some (baseline p b)).states.get b ≠ .enabled := by
  rw [ActionBar.get_update, Option.getD_some, baseline]
  split <;> decide

/-- **How a load fails**: the permissions cannot be read, or the table breaks before it is cleared
or after it. -/
theorem load_eq_error_iff :
    s.load kind raw = (s', .error e) ↔
      Permissions.derive raw = .error e ∧ s' = s ∨
        ∃ p, Permissions.derive raw = .ok p ∧
          ((∃ table, kind.cleared s.table = (.error e, table) ∧
              s' = { s with bar := { s.bar with permissions := p }, table }) ∨
            ∃ t table, kind.cleared s.table = (.ok (), t) ∧
              kind.BreaksOff s.bar.snapshots t [] e table ∧
              s' = { s with
                bar := { s.bar with permissions := p }.update fun b => some (baseline p b)
                table }) := by
  constructor
  · intro h
    rw [load] at h
    split at h
    · next hp =>
      cases h
      exact .inl ⟨hp, rfl⟩
    · next p hp =>
      refine .inr ⟨p, hp, ?_⟩
      dsimp only at h
      split at h
      · next hcleared =>
        cases h
        exact .inl ⟨_, hcleared, rfl⟩
      · next hcleared =>
        split at h
        · next hrun =>
          cases h
          obtain ⟨seen, t, bar, hbreaks, hall, rfl⟩ := recompute_eq_error_iff.mp hrun
          -- the bar is at the baseline, so had a resource been named it would have stopped there
          obtain rfl := eq_nil_of_restrictAll (not_enabled_baseline p _) hall
          cases hall
          exact .inr ⟨_, _, hcleared, hbreaks, rfl⟩
        · cases h
  · rintro (⟨hp, rfl⟩ | ⟨p, hp, ⟨table, hcleared, rfl⟩ | ⟨t, table, hcleared, hbreaks, rfl⟩⟩)
    · rw [load, hp]
    · rw [load, hp]
      dsimp only
      rw [hcleared]
    · rw [load, hp]
      dsimp only
      rw [hcleared]
      dsimp only
      rw [recompute_eq_error_iff.mpr ⟨[], table, _, hbreaks, rfl, rfl⟩]

/-- **What a failure leaves.** Whatever the stand and the table are like, an operation that fails
leaves the note buttons and their visibility as they were. A load leaves the snapshots, and nothing
enabled that was not: all is as before if the permissions cannot be read, all but the permissions if
the selection cannot be cleared, and else the bar is at the baseline for the new ones. A refresh and
the report of a row leave the permissions and what is hidden; what is shown is enabled as far as
those resources allow it that the table has told of by then. A bench does these operations with the
table that it has. -/
theorem failure_leaves (kind : TableKind τ) (s s' : Stand τ) (e : Failure) :
    (∀ raw, s.load kind raw = (s', .error e) →
      s'.noteButtons = s.noteButtons ∧ s'.bar.noteVisible = s.bar.noteVisible ∧
        s'.bar.snapshots = s.bar.snapshots ∧
        (∀ b, s'.bar.states.get b = .enabled → s.bar.states.get b = .enabled) ∧
        (Permissions.derive raw = .error e ∧ s' = s ∨
          ∃ p, Permissions.derive raw = .ok p ∧
            (kind.cleared s.table = (.error e, s'.table) ∧
                s'.bar = { s.bar with permissions := p } ∨
              ∃ t, kind.cleared s.table = (.ok (), t) ∧
                kind.BreaksOff s.bar.snapshots t [] e s'.table ∧
                s'.bar = { s.bar with permissions := p }.update fun b => some (baseline p b)))) ∧
    (s.refresh kind = (s', .error e) →
      s'.noteButtons = s.noteButtons ∧ ∃ seen,
        kind.BreaksOff s.bar.snapshots s.table seen e s'.table ∧ LeftAfter seen s.bar s'.bar) ∧
    (∀ r checked, s.change kind r checked = (s', .error e) →
      s'.noteButtons = s.noteButtons ∧ ∃ seen,
        kind.BreaksOff (Snapshots.record r s.bar.snapshots) s.table seen e s'.table ∧
          LeftAfter ((if checked then [r] else []) ++ seen) (s.bar.record r) s'.bar) ∧
    ∀ b : Bench, (∀ raw, b.Does (.load raw) (load Source.kind raw)) ∧
      b.Does .refresh (refresh Source.kind) ∧
      ∀ payload r checked, Resource.fromSnapshot payload = .ok r →
        b.Does (.change payload checked) (change Source.kind r checked) := by
  refine ⟨fun raw h => ?_, exists_left_of_refresh, fun r checked => exists_left_of_change,
    fun b => ⟨b.does_load, b.does_refresh, fun _ _ checked h => b.does_change h checked⟩⟩
  have hload := load_eq_error_iff.mp h
  rcases hload with ⟨hp, rfl⟩ | ⟨p, hp, ⟨table, hcleared, rfl⟩ | ⟨t, table, hcleared, hbreaks, rfl⟩⟩
  · exact ⟨rfl, rfl, rfl, fun _ => id, .inl ⟨hp, rfl⟩⟩
  · exact ⟨rfl, rfl, rfl, fun _ => id, .inr ⟨p, hp, .inl ⟨hcleared, rfl⟩⟩⟩
  · refine ⟨rfl, rfl, rfl, fun b henabled => ?_, .inr ⟨p, hp, .inr ⟨t, hcleared, hbreaks, rfl⟩⟩⟩
    exact absurd henabled (not_enabled_baseline p _ b)

/-- A table with one checked row, which breaks once it has answered so many times. -/
def flaky : TableKind Nat where
  checked
    | 0 => (.error (.broken "gone"), 0)
    | n + 1 => (.ok ["printer"], n)
  uncheck n := (.ok (), n)

/-- A bar for unlocking and reserving where nothing is enabled, beside a table that breaks: at the
second question in a refresh, and at once where a free board is reported or permissions are
loaded. -/
theorem failure_leaves_flaky :
    let printer : Resource := { name := "printer", isLocked := true }
    let board : Resource := { name := "board" }
    let p : Permissions := .ofGrants true false true false
    let bar : ActionBar := {
      permissions := p
      snapshots := [("printer", printer)]
      states := .ofFn (baseline p)
      noteVisible := true }
    let stand (answers : Nat) : Stand Nat := { bar, table := answers, noteButtons := [true] }
    let gone : Failure := .brokenSource "gone"
    (∃ s', (stand 1).refresh flaky = (s', .error gone) ∧ s'.noteButtons = [true] ∧
        s'.bar.states.get (.action .steal) = .hidden ∧
        s'.bar.states.get (.action .unlock) = .enabled ∧
        s'.bar.states.get (.action .reserve) = .disabled) ∧
      (∃ s', (stand 0).change flaky board true = (s', .error gone) ∧ s'.noteButtons = [true] ∧
        s'.bar.states.get (.action .unlock) = .disabled ∧
        s'.bar.states.get (.action .reserve) = .enabled) ∧
      ∃ s', (stand 0).load flaky (.object [("STEAL", .bool true)]) = (s', .error gone) ∧
        s'.noteButtons = [true] ∧ s'.bar.permissions.allows .unlock = false ∧
        ∀ b, s'.bar.states.get b ≠ .enabled := by
  intro printer board p bar stand gone
  refine ⟨⟨_, rfl, ?_⟩, ⟨_, rfl, ?_⟩, ⟨_, rfl, ?_⟩⟩
  · obtain ⟨-, hrefresh, -, -⟩ := failure_leaves flaky (stand 1) _ gone
    obtain ⟨hnotes, seen, hbreaks, hleft⟩ := hrefresh rfl
    have hseen : seen = [printer] := by
      cases hbreaks with
      | first h => cases h
      | second h _ =>
        cases h
        rfl
    subst hseen
    exact ⟨hnotes, (hleft.states _).trans rfl, (hleft.states _).trans rfl,
      (hleft.states _).trans rfl⟩
  · obtain ⟨-, -, hchange, -⟩ := failure_leaves flaky (stand 0) _ gone
    obtain ⟨hnotes, seen, hbreaks, hleft⟩ := hchange board true rfl
    have hseen : seen = [] := by
      cases hbreaks with
      | first _ => rfl
      | second h _ => cases h
    subst hseen
    exact ⟨hnotes, (hleft.states _).trans rfl, (hleft.states _).trans rfl⟩
  · obtain ⟨hload, -, -, -⟩ := failure_leaves flaky (stand 0) _ gone
    obtain ⟨hnotes, -, -, henabled, -⟩ := hload (.object [("STEAL", .bool true)]) rfl
    refine ⟨hnotes, by decide +kernel, fun b hb => ?_⟩
    exact not_enabled_baseline p bar b (henabled b hb)

/-- **A failure is not undone.** The table breaks after permissions were loaded. A refresh fails and
leaves a button enabled that was disabled, and another load fails and leaves its permissions in
place. -/
theorem failure_is_not_undone :
    let b : Bench := ((({} : Bench).step (.load (.object [("UNLOCK", .bool true)]))).1.step
      (.tableFails (some (.broken "gone")))).1
    let refreshed := b.step .refresh
    let loaded := b.step (.load .null)
    (∃ e, refreshed.2 = .error e) ∧ b.bar.states.get (.action .unlock) = .disabled ∧
        refreshed.1.bar.states.get (.action .unlock) = .enabled ∧
      (∃ e, loaded.2 = .error e) ∧ b.bar.permissions.allows .unlock = true ∧
        loaded.1.bar.permissions.allows .unlock = false := by
  refine ⟨⟨_, rfl⟩, ?_, ?_, ⟨_, rfl⟩, ?_, ?_⟩ <;> decide +kernel

end Stand

end Lockable
