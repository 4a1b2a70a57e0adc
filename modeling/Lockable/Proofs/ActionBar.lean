import Mathlib.Logic.Basic
import Lockable.ActionBar
import Lockable.Proofs.Selection

/-!
# The laws of the action bar

What an operation on the bar may touch is said once: a recomputation **adjusts** the bar
(`ActionBar.Adjusts`), which changes neither permissions nor snapshots, hides and shows no button,
and leaves the buttons on the screen as their states say if they were so before. What is left to say
of an operation is then which buttons it leaves **enabled**, and since a state is known from whether
it is hidden and whether it is enabled, that is all.

The bar computes step by step and stops early. An early stop means that no row action is enabled any
more, and nothing that the remaining rows could take away is left, so the stop agrees with the
conjunction over all rows (`ActionBar.enabled_restrictAll`).
-/

namespace Lockable

/-! ### States of a button -/

namespace ButtonState

/-- A state is known from whether it is hidden and whether it is enabled. -/
theorem eq_of_iff {s t : ButtonState} (hidden : s = .hidden ↔ t = .hidden)
    (enabled : s = .enabled ↔ t = .enabled) : s = t := by
  cases s <;> cases t <;> simp_all

/-- A button on the screen can be clicked exactly when it is enabled. -/
theorem clickable_handle_iff (s : ButtonState) :
    (s.handle.display && !s.handle.disabled) = true ↔ s = .enabled := by
  cases s <;> decide

end ButtonState

namespace ActionBar

variable {bar after : ActionBar} {source : Option Source} {names : List String}
  {r : Resource} {b : BarButton}

/-! ### Setting states -/

section Update

variable {change : BarButton → Option ButtonState}

@[simp]
theorem get_update (b : BarButton) :
    (bar.update change).states.get b = (change b).getD (bar.states.get b) :=
  ButtonStates.get_ofFn _ _

@[simp]
theorem permissions_update : (bar.update change).permissions = bar.permissions := rfl

@[simp]
theorem snapshots_update : (bar.update change).snapshots = bar.snapshots := rfl

@[simp]
theorem noteVisible_update : (bar.update change).noteVisible = bar.noteVisible := rfl

end Update

/-- The buttons on the screen show the states of the bar. -/
def Shown (bar : ActionBar) : Prop :=
  ∀ e ∈ bar.handles, ∀ b, BarButton.ofCapability? e.1 = some b → e.2 = (bar.states.get b).handle

/-- Setting states keeps the screen up with them. -/
theorem Shown.update (h : bar.Shown) (change : BarButton → Option ButtonState) :
    (bar.update change).Shown := by
  intro e he b hb
  obtain ⟨e₀, he₀, rfl⟩ := List.mem_map.mp he
  cases hc : change b with
  | none =>
    have hb₀ : BarButton.ofCapability? e₀.1 = some b := by
      revert hb
      split <;> exact id
    simp only [hb₀, Option.bind_some, hc, get_update, Option.getD_none]
    exact h e₀ he₀ b hb₀
  | some s =>
    have hb₀ : BarButton.ofCapability? e₀.1 = some b := by
      revert hb
      split <;> exact id
    simp only [hb₀, Option.bind_some, hc, get_update, Option.getD_some]

/-- Setting the states of all buttons brings the screen up with them, whatever was shown before. -/
theorem shown_update_all (bar : ActionBar) (f : BarButton → ButtonState) :
    (bar.update fun b => some (f b)).Shown := by
  intro e he b hb
  obtain ⟨e₀, he₀, rfl⟩ := List.mem_map.mp he
  have hb₀ : BarButton.ofCapability? e₀.1 = some b := by
    revert hb
    split <;> exact id
  simp [hb₀]

/-- The **same buttons** are on the screen, and one for administering, which the bar has no state
for, is as it was. -/
structure SameButtons (before after : List (Capability × ButtonHandle)) : Prop where
  capabilities : after.map Prod.fst = before.map Prod.fst
  administer : after.filter (·.1 = .administer) = before.filter (·.1 = .administer)

namespace SameButtons

protected theorem refl (handles : List (Capability × ButtonHandle)) : SameButtons handles handles :=
  ⟨rfl, rfl⟩

protected theorem trans {before middle after : List (Capability × ButtonHandle)}
    (h : SameButtons before middle) (h' : SameButtons middle after) : SameButtons before after where
  capabilities := h'.capabilities.trans h.capabilities
  administer := h'.administer.trans h.administer

/-- Setting states neither puts a button on the screen nor takes one away. -/
protected theorem update (bar : ActionBar) (change : BarButton → Option ButtonState) :
    SameButtons bar.handles (bar.update change).handles where
  capabilities := by
    refine (List.map_map ..).trans (List.map_congr_left fun e _ => ?_)
    rw [Function.comp_apply]
    split <;> rfl
  administer := by
    rw [ActionBar.update]
    dsimp only
    induction bar.handles with
    | nil => rfl
    | cons e rest ih =>
      rw [List.map_cons, List.filter_cons, List.filter_cons, ih]
      cases hb : (BarButton.ofCapability? e.1).bind change with
      | none => rfl
      | some s =>
        -- the bar has no button for administering, so this entry is for something else
        have hne : e.1 ≠ .administer := by
          intro he
          rw [he] at hb
          cases hb
        simp [hne]

end SameButtons

/-- A button that is on the screen is there with its state. -/
theorem Shown.find? (h : bar.Shown) {handle : ButtonHandle}
    (hfind : Keyed.find? b.capability bar.handles = some handle) :
    handle = (bar.states.get b).handle :=
  h _ (Keyed.mem_of_find? hfind) b (BarButton.ofCapability?_capability b)

/-! ### What a recomputation does -/

/-- Where the table can say what is selected, everything is disabled if that is nothing, and the bar
restricted to the snapshots of the selection if it is something. -/
theorem recompute_of_selection (h : Source.selection source = .ok names) (bar : ActionBar) :
    bar.recompute source =
      (if names = [] then bar.disableShown
        else (restrictAll (Snapshots.selected names bar.snapshots) bar).1, .ok ()) := by
  rw [recompute, h]
  cases names with
  | nil => rfl
  | cons name rest =>
    dsimp only
    split <;> next hr => simp [hr]

/-- A recomputation succeeds exactly where the table can say what is selected. -/
theorem recompute_ok_iff :
    (bar.recompute source).2 = .ok () ↔ ∃ names, Source.selection source = .ok names := by
  constructor
  · intro h
    rw [recompute] at h
    split at h
    · cases h
    · exact ⟨_, ‹_›⟩
  · rintro ⟨names, h⟩
    rw [recompute_of_selection h]

/-! ### What a recomputation may touch -/

/-- The bar is **adjusted**: only states of buttons that are not hidden change, and the screen with
them. -/
structure Adjusts (bar after : ActionBar) : Prop where
  permissions : after.permissions = bar.permissions
  snapshots : after.snapshots = bar.snapshots
  noteVisible : after.noteVisible = bar.noteVisible
  hidden : ∀ b, after.states.get b = .hidden ↔ bar.states.get b = .hidden
  shown : bar.Shown → after.Shown
  buttons : SameButtons bar.handles after.handles

namespace Adjusts

protected theorem refl (bar : ActionBar) : Adjusts bar bar :=
  ⟨rfl, rfl, rfl, fun _ => Iff.rfl, id, .refl _⟩

protected theorem trans {bar middle after : ActionBar} (h : Adjusts bar middle)
    (h' : Adjusts middle after) : Adjusts bar after where
  permissions := h'.permissions.trans h.permissions
  snapshots := h'.snapshots.trans h.snapshots
  noteVisible := h'.noteVisible.trans h.noteVisible
  hidden b := (h'.hidden b).trans (h.hidden b)
  shown := h'.shown ∘ h.shown
  buttons := h.buttons.trans h'.buttons

/-- Setting states adjusts the bar if it neither hides a button nor touches a hidden one. -/
protected theorem update {change : BarButton → Option ButtonState}
    (h : ∀ b s, change b = some s → s ≠ .hidden ∧ bar.states.get b ≠ .hidden) :
    Adjusts bar (bar.update change) where
  permissions := rfl
  snapshots := rfl
  noteVisible := rfl
  hidden b := by
    rw [get_update]
    cases hc : change b with
    | none => rfl
    | some s => simp [h b s hc]
  shown hshown := hshown.update change
  buttons := .update bar change

end Adjusts

theorem adjusts_enableShown (bar : ActionBar) : Adjusts bar bar.enableShown := by
  refine Adjusts.update fun b s hs => ?_
  split at hs
  · cases hs
  · cases hs
    exact ⟨by decide, ‹_›⟩

theorem adjusts_disableShown (bar : ActionBar) : Adjusts bar bar.disableShown := by
  refine Adjusts.update fun b s hs => ?_
  split at hs
  · cases hs
  · cases hs
    exact ⟨by decide, ‹_›⟩

theorem adjusts_restrict (r : Resource) (bar : ActionBar) : Adjusts bar (bar.restrict r) := by
  refine Adjusts.update fun b s hs => ?_
  cases b with
  | editNote => cases hs
  | action a =>
    dsimp only at hs
    split at hs
    · cases hs
    · next h =>
      cases hs
      exact ⟨by decide, fun hh => h (.inr hh)⟩

theorem adjusts_restrictAll (rs : List Resource) (bar : ActionBar) :
    Adjusts bar (restrictAll rs bar).1 := by
  induction rs generalizing bar with
  | nil => exact .refl bar
  | cons r rest ih =>
    rw [restrictAll]
    split
    · exact adjusts_restrict r bar
    · exact (adjusts_restrict r bar).trans (ih _)

theorem adjusts_recompute (source : Option Source) (bar : ActionBar) :
    Adjusts bar (bar.recompute source).1 := by
  cases h : Source.selection source with
  | error e =>
    rw [recompute, h]
    exact .refl bar
  | ok names =>
    rw [recompute_of_selection h]
    by_cases hn : names = []
    · rw [if_pos hn]
      exact adjusts_disableShown bar
    · rw [if_neg hn]
      exact adjusts_restrictAll _ bar

theorem adjusts_refresh (source : Option Source) (bar : ActionBar) :
    Adjusts bar (bar.refresh source).1 :=
  (adjusts_enableShown bar).trans (adjusts_recompute source _)

theorem adjusts_selectionChanged (r : Resource) (checked : Bool) (source : Option Source)
    (bar : ActionBar) : Adjusts (bar.record r) (bar.selectionChanged r checked source).1 := by
  have h := adjusts_enableShown (bar.record r)
  rw [selectionChanged]
  split
  · have h := h.trans (adjusts_restrict r _)
    dsimp only
    split
    · exact h
    · exact h.trans (adjusts_recompute source _)
  · exact h.trans (adjusts_recompute source _)

/-! ### Which buttons are left enabled -/

theorem enabled_enableShown :
    bar.enableShown.states.get b = .enabled ↔ bar.states.get b ≠ .hidden := by
  rw [enableShown, get_update]
  by_cases h : bar.states.get b = .hidden <;> simp [h]

theorem not_enabled_disableShown : bar.disableShown.states.get b ≠ .enabled := by
  rw [disableShown, get_update]
  by_cases h : bar.states.get b = .hidden <;> simp [h]

theorem enabled_restrict (r : Resource) (bar : ActionBar) (a : RowAction) :
    (bar.restrict r).states.get (.action a) = .enabled ↔
      bar.states.get (.action a) = .enabled ∧ r.allows bar.permissions a := by
  rw [restrict, get_update]
  by_cases h : r.allows bar.permissions a = true
  · simp [h]
  · by_cases hh : bar.states.get (.action a) = .hidden <;> simp [h, hh]

theorem get_restrict_editNote (r : Resource) (bar : ActionBar) :
    (bar.restrict r).states.get .editNote = bar.states.get .editNote := by
  rw [restrict, get_update, Option.getD_none]

theorem exhausted_iff : bar.exhausted = true ↔ ∀ a, bar.states.get (.action a) ≠ .enabled := by
  simp [exhausted]

/-- **The early stop loses nothing.** Whether the restriction runs through all resources or stops
at one that leaves no row action, a row action stays enabled exactly when all resources allow it. -/
theorem enabled_restrictAll (rs : List Resource) (bar : ActionBar) (a : RowAction) :
    (restrictAll rs bar).1.states.get (.action a) = .enabled ↔
      bar.states.get (.action a) = .enabled ∧ ∀ r ∈ rs, r.allows bar.permissions a := by
  induction rs generalizing bar with
  | nil => simp [restrictAll]
  | cons r rest ih =>
    have hr := enabled_restrict r bar a
    rw [restrictAll, List.forall_mem_cons]
    split
    · next hstop =>
      -- nothing is left to take away, so the rest is not asked and could not matter
      have hnone := exhausted_iff.mp hstop a
      refine iff_of_false hnone ?_
      rintro ⟨henabled, hallows, -⟩
      exact hnone (hr.mpr ⟨henabled, hallows⟩)
    · rw [ih, hr, (adjusts_restrict r bar).permissions, and_assoc]

theorem get_restrictAll_editNote (rs : List Resource) (bar : ActionBar) :
    (restrictAll rs bar).1.states.get .editNote = bar.states.get .editNote := by
  induction rs generalizing bar with
  | nil => rfl
  | cons r rest ih =>
    rw [restrictAll]
    split
    · exact get_restrict_editNote r bar
    · rw [ih, get_restrict_editNote]

/-- After a recomputation a row action is enabled if it was, something is selected and every
snapshot of the selection allows it. -/
theorem enabled_recompute_action (h : Source.selection source = .ok names) (bar : ActionBar)
    (a : RowAction) :
    (bar.recompute source).1.states.get (.action a) = .enabled ↔
      bar.states.get (.action a) = .enabled ∧ names ≠ [] ∧
        ∀ r ∈ Snapshots.selected names bar.snapshots, r.allows bar.permissions a := by
  rw [recompute_of_selection h]
  by_cases hn : names = []
  · simp [hn, not_enabled_disableShown]
  · rw [if_neg hn, enabled_restrictAll, and_iff_right hn]

/-- After a recomputation editing a note is enabled if it was and something is selected. -/
theorem enabled_recompute_editNote (h : Source.selection source = .ok names) (bar : ActionBar) :
    (bar.recompute source).1.states.get .editNote = .enabled ↔
      bar.states.get .editNote = .enabled ∧ names ≠ [] := by
  rw [recompute_of_selection h]
  by_cases hn : names = []
  · simp [hn, not_enabled_disableShown]
  · rw [if_neg hn, get_restrictAll_editNote, and_iff_left hn]

/-! ### Loading permissions -/

/-- The bar is as it is right after these permissions were **loaded**: at the baseline, with the
screen and the note buttons as the permissions say. -/
structure Loaded (bar : ActionBar) (p : Permissions) (after : ActionBar) : Prop where
  permissions : after.permissions = p
  snapshots : after.snapshots = bar.snapshots
  states : ∀ b, after.states.get b = baseline p b
  noteVisible : after.noteVisible = p.allows .edit
  shown : after.Shown
  buttons : SameButtons bar.handles after.handles

/-- Nothing is selected on a table that was cleared. -/
theorem selection_of_cleared {cleared : Option Source} (h : Source.cleared source = .ok cleared) :
    Source.selection cleared = .ok [] := by
  cases source with
  | none =>
    cases h
    rfl
  | some s =>
    rw [Source.cleared] at h
    split at h
    · next hf =>
      cases h
      simp [Source.selection, hf, distinct]
    · next hf =>
      cases h
      simp [Source.selection, hf]
    · cases h

/-- A load that can read the permissions and clear the table succeeds, whatever the bar was like. -/
theorem exists_loaded {raw : Json} {p : Permissions} {cleared : Option Source}
    (hp : Permissions.derive raw = .ok p) (hs : Source.cleared source = .ok cleared)
    (bar : ActionBar) :
    ∃ after, bar.load raw source = ((after, cleared), .ok ()) ∧ Loaded bar p after := by
  obtain ⟨start, hstart⟩ : ∃ start : ActionBar,
      start = ({ bar with permissions := p }).update fun b => some (baseline p b) := ⟨_, rfl⟩
  -- the table was cleared before the bar asks it again
  have hrec : start.recompute cleared = (start.disableShown, .ok ()) := by
    rw [recompute_of_selection (selection_of_cleared hs), if_pos rfl]
  have hadj := adjusts_disableShown start
  have hbuttons : SameButtons bar.handles start.handles :=
    hstart ▸ .update { bar with permissions := p } _
  refine ⟨{ start.disableShown with noteVisible := p.allows .edit }, ?_,
    hstart ▸ rfl, hstart ▸ rfl, fun b => ?_, rfl, hadj.shown (hstart ▸ shown_update_all _ _),
    hbuttons.trans hadj.buttons⟩
  · simp only [load, hp, hs]
    rw [← hstart, hrec]
  · refine ButtonState.eq_of_iff ?_ (iff_of_false not_enabled_disableShown ?_)
    · rw [hadj.hidden, hstart, get_update, Option.getD_some]
    · rw [baseline]
      split <;> simp

/-- How a load can end: the permissions cannot be read, or the table breaks before it is cleared,
and then no button is touched, or the load succeeds. -/
theorem load_cases (raw : Json) (source : Option Source) (bar : ActionBar) :
    (∃ e, bar.load raw source = ((bar, source), .error e)) ∨
    (∃ p e, bar.load raw source = (({ bar with permissions := p }, source), .error e)) ∨
    ∃ p cleared after, Permissions.derive raw = .ok p ∧ Source.cleared source = .ok cleared ∧
      bar.load raw source = ((after, cleared), .ok ()) ∧ Loaded bar p after := by
  rcases hp : Permissions.derive raw with e | p
  · exact .inl ⟨e, by rw [load, hp]⟩
  · rcases hs : Source.cleared source with e | cleared
    · exact .inr (.inl ⟨p, e, by simp only [load, hp, hs]⟩)
    · obtain ⟨after, hload, hloaded⟩ := exists_loaded hp hs bar
      exact .inr (.inr ⟨p, cleared, after, rfl, rfl, hload, hloaded⟩)

end ActionBar

end Lockable
