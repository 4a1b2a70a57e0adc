import Lockable.Proofs.ActionBar

/-!
# Gating

A batch is offered when it is valid for **each** selected resource: `ActionBar.gate` says so at
once, and the bar computes it step by step. Here the two are shown to agree. Every call that
recomputes the bar leaves each button that is not hidden in the state that the gate gives for what
is selected now, from any bar whatever: no earlier state, cached row or drifted permission survives
in the result.

The one thing that a call must get right is what it says: a row reported as checked has to be among
the selected ones. Otherwise the bar takes away what that row does not allow, and may stop there.
-/

namespace Lockable.ActionBar

variable {p : Permissions} {names names' : List String} {rs rs' : List Resource} {a : RowAction}
  {b : BarButton} {source source' : Option Source} {bar bar' after after' : ActionBar}

/-! ### The gate -/

theorem gate_ne_hidden : gate p names rs b ≠ .hidden := by
  cases b with
  | action a =>
    rw [gate]
    split <;> decide
  | editNote =>
    rw [gate]
    split <;> decide

theorem gate_action :
    gate p names rs (.action a) =
      if names ≠ [] ∧ ∀ r ∈ rs, r.allows p a then .enabled else .disabled := by
  rw [gate]
  congr 1
  simp

theorem gate_editNote :
    gate p names rs .editNote = if names ≠ [] then .enabled else .disabled := by
  cases names <;> rfl

theorem gate_action_eq_enabled_iff :
    gate p names rs (.action a) = .enabled ↔ names ≠ [] ∧ ∀ r ∈ rs, r.allows p a := by
  rw [gate_action]
  split
  · next h => exact iff_of_true rfl h
  · next h => exact iff_of_false (by decide) h

theorem gate_editNote_eq_enabled_iff : gate p names rs .editNote = .enabled ↔ names ≠ [] := by
  rw [gate_editNote]
  split <;> simp [*]

/-- The gate goes by whether something is selected and by the set of the snapshots: neither order
nor repetitions matter. -/
theorem gate_congr (hnames : names = [] ↔ names' = []) (hrs : ∀ r, r ∈ rs ↔ r ∈ rs') :
    gate p names rs = gate p names' rs' := by
  funext b
  refine ButtonState.eq_of_iff (iff_of_false gate_ne_hidden gate_ne_hidden) ?_
  cases b with
  | action a => simp only [gate_action_eq_enabled_iff, ne_eq, hnames, hrs]
  | editNote => simp only [gate_editNote_eq_enabled_iff, ne_eq, hnames]

/-- The state of every button under some permissions: hidden without permission, else as the gate
says. -/
def gated (p : Permissions) (names : List String) (rs : List Resource) (b : BarButton) :
    ButtonState :=
  if p.allows b.capability then gate p names rs b else .hidden

theorem gated_eq_hidden_iff : gated p names rs b = .hidden ↔ p.allows b.capability = false := by
  rw [gated]
  split
  · next h => simp [gate_ne_hidden, h]
  · next h => simpa using h

theorem gated_eq_enabled_iff : gated p names rs b = .enabled ↔
    p.allows b.capability = true ∧ gate p names rs b = .enabled := by
  rw [gated]
  split
  · next h => rw [and_iff_right h]
  · next h => exact iff_of_false (by decide) fun h' => h h'.1

/-- Without a selection the gate is the baseline. -/
theorem gated_nil : gated p [] rs b = baseline p b := by
  rw [gated, baseline]
  cases b <;> rfl

/-! ### Recomputations -/

/-- A call that recomputes the bar. -/
inductive Recomputation where
  | refresh
  /-- A row is reported as checked or unchecked. -/
  | change (r : Resource) (checked : Bool)

namespace Recomputation

variable {call call' : Recomputation}

/-- Carries out the call. -/
def run (source : Option Source) (bar : ActionBar) : Recomputation → ActionBar × Except Failure Unit
  | refresh => bar.refresh source
  | change r checked => bar.selectionChanged r checked source

/-- The bar with what the call tells it of a row. -/
def note (bar : ActionBar) : Recomputation → ActionBar
  | refresh => bar
  | change r _ => bar.record r

/-- What the call says is true where these names are selected: a row that it reports as checked is
among them. -/
def Truthful (names : List String) (call : Recomputation) : Prop :=
  ∀ r, call = change r true → r.name ∈ names

theorem adjusts_run (call : Recomputation) (source : Option Source) (bar : ActionBar) :
    Adjusts (call.note bar) (call.run source bar).1 := by
  cases call with
  | refresh => exact adjusts_refresh source bar
  | change r checked => exact adjusts_selectionChanged r checked source bar

/-- A recomputation after everything that is shown was enabled. -/
private theorem enabled_recompute_enableShown (h : Source.selection source = .ok names)
    (bar : ActionBar) (b : BarButton) :
    (bar.enableShown.recompute source).1.states.get b = .enabled ↔
      bar.states.get b ≠ .hidden ∧
        gate bar.permissions names (Snapshots.selected names bar.snapshots) b = .enabled := by
  cases b with
  | action a =>
    rw [enabled_recompute_action h, enabled_enableShown, gate_action_eq_enabled_iff,
      (adjusts_enableShown bar).permissions, (adjusts_enableShown bar).snapshots]
  | editNote =>
    rw [enabled_recompute_editNote h, enabled_enableShown, gate_editNote_eq_enabled_iff]

/-- Restricting to a selected row before a recomputation makes no difference to it, whether the bar
stops right there or goes on. -/
private theorem enabled_selectionChanged_checked {r : Resource}
    (h : Source.selection source = .ok names) (hr : r.name ∈ names) (bar : ActionBar)
    (b : BarButton) :
    (bar.selectionChanged r true source).1.states.get b = .enabled ↔
      bar.states.get b ≠ .hidden ∧
        gate bar.permissions names (Snapshots.selected names (bar.record r).snapshots) b =
          .enabled := by
  have hne : names ≠ [] := List.ne_nil_of_mem hr
  have hmem : r ∈ Snapshots.selected names (bar.record r).snapshots :=
    Snapshots.mem_selected.mpr ⟨r.name, hr, Snapshots.get?_record_self r _⟩
  -- what is enabled once the bar is restricted to the row
  have hrow : ∀ a, ((bar.record r).enableShown.restrict r).states.get (.action a) = .enabled ↔
      bar.states.get (.action a) ≠ .hidden ∧ r.allows bar.permissions a := by
    intro a
    rw [enabled_restrict, enabled_enableShown, (adjusts_enableShown _).permissions]
    rfl
  have hedit : ((bar.record r).enableShown.restrict r).states.get .editNote = .enabled ↔
      bar.states.get .editNote ≠ .hidden := by
    rw [get_restrict_editNote, enabled_enableShown]
    rfl
  have hadj := (adjusts_enableShown (bar.record r)).trans (adjusts_restrict r _)
  rw [selectionChanged, if_pos rfl]
  dsimp only
  split
  · next hstop =>
    -- the bar stops at the row itself, which is one of the selected and denies everything
    cases b with
    | action a =>
      rw [hrow, gate_action_eq_enabled_iff]
      have hnone := exhausted_iff.mp hstop a
      rw [ne_eq, hrow] at hnone
      refine iff_of_false hnone ?_
      rintro ⟨hshown, -, hall⟩
      exact hnone ⟨hshown, hall r hmem⟩
    | editNote => rw [hedit, gate_editNote_eq_enabled_iff, and_iff_left hne]
  · cases b with
    | action a =>
      rw [enabled_recompute_action h, hrow, gate_action_eq_enabled_iff, hadj.permissions,
        hadj.snapshots, and_assoc]
      -- the row is asked twice, once on its own and once among the selected
      refine and_congr_right fun _ => and_iff_right_of_imp ?_
      rintro ⟨-, hall⟩
      exact hall r hmem
    | editNote => rw [enabled_recompute_editNote h, hedit, gate_editNote_eq_enabled_iff]

/-- **A truthful recomputation leaves the gate.** A hidden button stays hidden, and every other one
is in the state that the gate gives for what is selected. -/
theorem get_run (h : Source.selection source = .ok names) (ht : call.Truthful names)
    (bar : ActionBar) (b : BarButton) :
    (call.run source bar).1.states.get b =
      if bar.states.get b = .hidden then .hidden
      else gate bar.permissions names (Snapshots.selected names (call.note bar).snapshots) b := by
  have hhidden : (call.run source bar).1.states.get b = .hidden ↔ bar.states.get b = .hidden := by
    rw [(adjusts_run call source bar).hidden]
    cases call <;> rfl
  have henabled : (call.run source bar).1.states.get b = .enabled ↔
      bar.states.get b ≠ .hidden ∧
        gate bar.permissions names (Snapshots.selected names (call.note bar).snapshots) b =
          .enabled := by
    cases call with
    | refresh => exact enabled_recompute_enableShown h bar b
    | change r checked =>
      cases checked with
      | true => exact enabled_selectionChanged_checked h (ht r rfl) bar b
      | false => exact enabled_recompute_enableShown h (bar.record r) b
  -- neither side is hidden now, so they are the same if they are enabled alike
  by_cases hb : bar.states.get b = .hidden
  · rw [if_pos hb, hhidden.mpr hb]
  · rw [if_neg hb]
    exact ButtonState.eq_of_iff (iff_of_false (mt hhidden.mp hb) gate_ne_hidden)
      (henabled.trans (and_iff_right hb))

/-- A truthful recomputation succeeds where the table can say what is selected. -/
theorem run_ok (h : Source.selection source = .ok names) (call : Recomputation) (bar : ActionBar) :
    (call.run source bar).2 = .ok () := by
  cases call with
  | refresh => exact recompute_ok_iff.mpr ⟨names, h⟩
  | change r checked =>
    rw [run, selectionChanged]
    split
    · dsimp only
      split
      · rfl
      · exact recompute_ok_iff.mpr ⟨names, h⟩
    · exact recompute_ok_iff.mpr ⟨names, h⟩

/-- The call **returns**, and what it says is true: these are the names that are selected and their
snapshots on the bar that it leaves. -/
structure Returns (call : Recomputation) (source : Option Source) (bar after : ActionBar)
    (names : List String) (resources : List Resource) : Prop where
  outcome : call.run source bar = (after, .ok ())
  selection : Source.selection source = .ok names
  selected : after.selectedResources source = .ok resources
  truthful : call.Truthful names

namespace Returns

variable {resources resources' : List Resource}

/-- The states on the bar that a call leaves. -/
theorem get (h : call.Returns source bar after names resources) (b : BarButton) :
    after.states.get b =
      if bar.states.get b = .hidden then .hidden else gate bar.permissions names resources b := by
  have hget := get_run h.selection h.truthful bar b
  have hadj := adjusts_run call source bar
  have hselected := h.selected
  rw [h.outcome] at hget hadj
  rw [selectedResources, h.selection, Except.map, Except.ok.injEq, hadj.snapshots] at hselected
  rw [hget, hselected]

/-- A call that returns did ask the table, unless it reported a checked row. -/
theorem exists_of_run (h : call.run source bar = (after, .ok ()))
    (ht : ∀ r, call = change r true →
      ∃ names, Source.selection source = .ok names ∧ r.name ∈ names) :
    ∃ names resources, call.Returns source bar after names resources := by
  have hask : ∃ names, Source.selection source = .ok names := by
    have hok := congrArg Prod.snd h
    cases call with
    | refresh => exact recompute_ok_iff.mp hok
    | change r checked =>
      cases checked with
      | true => exact (ht r rfl).imp fun _ => And.left
      | false => exact recompute_ok_iff.mp hok
  obtain ⟨names, hnames⟩ := hask
  refine ⟨names, _, h, hnames, by rw [selectedResources, hnames]; rfl, fun r hr => ?_⟩
  obtain ⟨names', hnames', hmem⟩ := ht r hr
  cases hnames.symm.trans hnames'
  exact hmem

end Returns

end Recomputation

/-- **Gating is exact**, on every bar and for every table. Where a recomputation returns, and a row
that it reports as checked is selected, a hidden button stays hidden, every other row action is
enabled if something is selected and each snapshot of the selection allows it and disabled
otherwise, and editing a note is enabled if something is selected. So two such calls that go by the
same permissions, hidden buttons, selected names and snapshots leave the same states, however the
bars got there and in whatever order and how often the rows are named. -/
theorem gating_exact {call : Recomputation} (returns : call.run source bar = (after, .ok ()))
    (truthful : ∀ r, call = .change r true →
      ∃ names, Source.selection source = .ok names ∧ r.name ∈ names) :
    ∃ names resources, call.Returns source bar after names resources ∧
      (∀ b, bar.states.get b = .hidden → after.states.get b = .hidden) ∧
      (∀ a, bar.states.get (.action a) ≠ .hidden → after.states.get (.action a) =
        if names ≠ [] ∧ ∀ r ∈ resources, r.allows bar.permissions a then .enabled else .disabled) ∧
      (bar.states.get .editNote ≠ .hidden →
        after.states.get .editNote = if names ≠ [] then .enabled else .disabled) ∧
      ∀ {call' source' bar' after' names' resources'},
        Recomputation.Returns call' source' bar' after' names' resources' →
        bar'.permissions = bar.permissions →
        (∀ b, bar'.states.get b = .hidden ↔ bar.states.get b = .hidden) →
        (∀ name, name ∈ names' ↔ name ∈ names) → (∀ r, r ∈ resources' ↔ r ∈ resources) →
        after'.states = after.states := by
  obtain ⟨names, resources, h⟩ := Recomputation.Returns.exists_of_run returns truthful
  refine ⟨names, resources, h, fun b hb => ?_, fun a ha => ?_, fun he => ?_, ?_⟩
  · rw [h.get, if_pos hb]
  · rw [h.get, if_neg ha, gate_action]
  · rw [h.get, if_neg he, gate_editNote]
  · intro call' source' bar' after' names' resources' h' hp hhidden hnames hresources
    have hnil : names' = [] ↔ names = [] := by
      simp only [List.eq_nil_iff_forall_not_mem, hnames]
    refine ButtonStates.ext_get fun b => ?_
    rw [h.get, h'.get, hp, gate_congr hnil hresources]
    simp only [hhidden]

/-- A free printer is checked beside a locked board that is checked twice, on a bar that hides
stealing: what the board does not allow cannot be done with the two. -/
theorem gating_exact_printer_and_board :
    let printer : Resource := { name := "printer" }
    let board : Resource := { name := "board", isLocked := true }
    let bar : ActionBar := {
      permissions := .ofGrants true false true false
      snapshots := [("board", board)]
      states := .ofFn fun b => if b = .action .steal then .hidden else .disabled }
    let source : Option Source := some { checked := ["board", "printer", "board"] }
    let after := (bar.selectionChanged printer true source).1
    (Recomputation.change printer true).run source bar = (after, .ok ()) ∧
      (∃ names, Source.selection source = .ok names ∧ printer.name ∈ names) ∧
      after.states.get (.action .steal) = .hidden ∧
      after.states.get (.action .reserve) = .disabled ∧
      after.states.get .editNote = .enabled := by
  intro printer board bar source after
  have hselection : Source.selection source = .ok ["board", "printer"] := by decide
  have hreturns : (Recomputation.change printer true).run source bar = (after, .ok ()) := rfl
  have hmem : ∃ names, Source.selection source = .ok names ∧ printer.name ∈ names :=
    ⟨_, hselection, by decide⟩
  obtain ⟨names, resources, h, hhidden, hrow, hedit, -⟩ :=
    gating_exact hreturns fun r hr => by cases hr; exact hmem
  have hnames : ["board", "printer"] = names := Except.ok.inj (hselection.symm.trans h.selection)
  have hresources : [board, printer] = resources := Except.ok.inj h.selected
  subst hnames hresources
  refine ⟨hreturns, hmem, hhidden _ (by decide), (hrow _ (by decide)).trans ?_, hedit (by decide)⟩
  exact if_neg fun hall => absurd (hall.2 board List.mem_cons_self) (by decide)

end Lockable.ActionBar
