import Lockable.Proofs.Panel.Visibility

/-!
# Without a selection

Where nothing is selected, nothing should be there to be clicked. A load and a recomputation keep to
that, and so does the report of an unchecked row: the rule for the empty selection comes last in
each and disables whatever is shown.

The report of a **checked** row has a way out before that rule. When the row allows none of the
shown actions, no row action is left to take away, and the bar stops there; editing a note, which
goes by the rule alone, stays enabled. That is right if the row is selected as reported. If it is
not any more, say because a load of permissions has cleared the selection in the meantime, editing a
note is enabled without a selection, and this is the only case
(`Panel.enabled_without_selection_iff`).
-/

namespace Lockable

namespace ActionBar

variable {source : Option Source} {b : BarButton}

/-- A recomputation without a selection leaves nothing enabled. -/
theorem not_enabled_recompute_of_selection_nil (h : Source.selection source = .ok [])
    (bar : ActionBar) : (bar.recompute source).1.states.get b ≠ .enabled := by
  rw [recompute_of_selection h, if_pos rfl]
  exact not_enabled_disableShown

/-- What the report of a row leaves enabled where nothing is selected: at most editing a note, and
that if the row is reported as checked and allows nothing that is shown. -/
theorem enabled_selectionChanged_of_selection_nil (h : Source.selection source = .ok [])
    (r : Resource) (checked : Bool) (bar : ActionBar) :
    (bar.selectionChanged r checked source).1.states.get b = .enabled ↔
      b = .editNote ∧ bar.states.get .editNote ≠ .hidden ∧ checked = true ∧
        ∀ a, bar.states.get (.action a) ≠ .hidden → r.allows bar.permissions a = false := by
  -- what the row leaves of the row actions before the bar asks for the selection
  have hrow : ∀ a, ((bar.record r).enableShown.restrict r).states.get (.action a) = .enabled ↔
      bar.states.get (.action a) ≠ .hidden ∧ r.allows bar.permissions a := by
    intro a
    rw [enabled_restrict, enabled_enableShown, (adjusts_enableShown _).permissions]
    rfl
  have hexhausted : ((bar.record r).enableShown.restrict r).exhausted = true ↔
      ∀ a, bar.states.get (.action a) ≠ .hidden → r.allows bar.permissions a = false := by
    simp only [exhausted_iff, ne_eq, hrow, not_and, Bool.not_eq_true]
  rw [selectionChanged]
  split
  · next hchecked =>
    dsimp only
    split
    · next hstop =>
      -- the way out: no row action is left, and editing a note is as the start has enabled it
      have hnone := exhausted_iff.mp hstop
      cases b with
      | action a => exact iff_of_false (hnone a) (by simp)
      | editNote =>
        rw [get_restrict_editNote, enabled_enableShown]
        refine ⟨fun hshown => ⟨rfl, hshown, hchecked, hexhausted.mp hstop⟩, ?_⟩
        rintro ⟨-, hshown, -⟩
        exact hshown
    · next hgo =>
      refine iff_of_false (not_enabled_recompute_of_selection_nil h _) ?_
      rintro ⟨-, -, -, hall⟩
      exact hgo (hexhausted.mpr hall)
  · next hchecked =>
    refine iff_of_false (not_enabled_recompute_of_selection_nil h _) ?_
    rintro ⟨-, -, htrue, -⟩
    exact hchecked htrue

end ActionBar

namespace Panel

variable {handles : List (Capability × ButtonHandle)} {past : Past} {p : Panel} {a : Act}

/-- The acts after which the bar has been computed: a load, a report and a recomputation. -/
def Act.Computes : Act → Prop
  | .load _ => True
  | .change _ _ => True
  | .refresh => True
  | _ => False

/-- **Without a selection nothing can be clicked, but for editing a note in one case.** When a load,
a report or a recomputation returns and nothing is selected then, a button is enabled exactly if it
is the one for editing a note, it was shown, and the call has reported a row as checked that allows
none of the shown actions. Once a load has returned or buttons have been bound, every other button
on the screen is disabled, and that one exactly if it is not enabled. -/
theorem enabled_without_selection_iff (h : Reached handles past p) (hcall : a.Computes)
    (hok : (p.act a).2 = .ok ()) (hnone : Source.selection (p.act a).1.source = .ok []) :
    (∀ b, (p.act a).1.bar.states.get b = .enabled ↔
      b = .editNote ∧ p.bar.states.get .editNote ≠ .hidden ∧
        ∃ r, a = .change r true ∧
          ∀ x, p.bar.states.get (.action x) ≠ .hidden → r.allows p.bar.permissions x = false) ∧
    (Past.Synchronised ((a, .ok ()) :: past) →
      ∀ b handle, (b.capability, handle) ∈ (p.act a).1.bar.handles →
        (handle.disabled = false ↔ (p.act a).1.bar.states.get b = .enabled)) := by
  refine ⟨fun b => ?_, fun hsync b handle hmem => ?_⟩
  · cases a with
    | load raw =>
      rw [Panel.act] at hok ⊢
      rcases ActionBar.load_cases raw p.source p.bar with ⟨e, he⟩ | ⟨q, e, he⟩ |
        ⟨q, cleared, after, -, -, he, hloaded⟩ <;> rw [he] at hok ⊢
      · cases hok
      · cases hok
      · refine iff_of_false ?_ (by simp)
        rw [hloaded.states, ActionBar.baseline]
        split <;> decide
    | change r checked =>
      refine (ActionBar.enabled_selectionChanged_of_selection_nil hnone r checked p.bar).trans ?_
      simp
    | refresh =>
      exact iff_of_false (ActionBar.not_enabled_recompute_of_selection_nil hnone _) (by simp)
    | _ => exact hcall.elim
  · have hshown := (h.act a).consistent.shown (hok ▸ hsync)
    have hstate : handle = ((p.act a).1.bar.states.get b).handle :=
      hshown _ hmem b (BarButton.ofCapability?_capability b)
    rw [hstate]
    cases (p.act a).1.bar.states.get b <;> decide

/-- Unlocking is granted and a locked board checked when permissions are loaded, which unchecks it;
it is then reported as unchecked. Nothing is left enabled. -/
theorem enabled_without_selection_iff_unchecked :
    let raw : Json := .object [("unlock", .bool true)]
    let board : Resource := { name := "board", isLocked := true }
    ∃ past p, Reached [(.unlock, {}), (.edit, {})] past p ∧
      past.map Prod.fst = [.load raw, .change board true, .attach (some { checked := ["board"] })] ∧
      (p.act (.change board false)).2 = .ok () ∧
      Source.selection (p.act (.change board false)).1.source = .ok [] ∧
      (∀ b, (p.act (.change board false)).1.bar.states.get b ≠ .enabled) ∧
      ∀ handle, (.edit, handle) ∈ (p.act (.change board false)).1.bar.handles →
        handle.disabled ≠ false := by
  intro raw board
  have hfresh : Reached [(.unlock, {}), (.edit, {})] [] _ := .fresh none
  have hreached := ((hfresh.act (.attach (some { checked := ["board"] }))).act
    (.change board true)).act (.load raw)
  obtain ⟨hstates, hhandles⟩ :=
    enabled_without_selection_iff hreached (a := .change board false) trivial (by decide +kernel)
      (by decide +kernel)
  have hnone := fun b => mt (hstates b).mp (by simp)
  exact ⟨_, _, hreached, rfl, by decide +kernel, by decide +kernel, hnone, fun handle hmem =>
    mt (hhandles trivial .editNote handle hmem).mp (hnone _)⟩

/-- Editing a note **is** enabled without a selection: the load has unchecked a free printer, and
the report that it was checked comes after that. -/
theorem editNote_enabled_without_selection :
    let printer : Resource := { name := "printer" }
    ∃ past p, Reached [(.edit, {})] past p ∧
      past.map Prod.fst =
        [.load (.object [("unlock", .bool true)]), .attach (some { checked := ["printer"] })] ∧
      (p.act (.change printer true)).2 = .ok () ∧
      Source.selection (p.act (.change printer true)).1.source = .ok [] ∧
      (p.act (.change printer true)).1.bar.states.get .editNote = .enabled ∧
      (p.act (.change printer true)).1.bar.handles = [(.edit, ⟨false, true⟩)] :=
  ⟨_, _, ((Reached.fresh none).act (.attach (some { checked := ["printer"] }))).act
    (.load (.object [("unlock", .bool true)])), rfl, by decide +kernel, by decide +kernel,
    by decide +kernel, by decide +kernel⟩

end Panel

end Lockable
