import Lockable.Proofs.Gating

/-!
# Checking rows one after another

A row is checked in the table and then reported to the bar. The table may list the rows that are
checked in any order and as often as it likes: after each report **every button is as the gate
says** for all the rows checked so far (`ActionBar.Checked.change`), so that a whole run of reports
comes to the gate for the rows together.
-/

namespace Lockable.ActionBar

variable {f : String → Option Resource} {p : Permissions} {names listed : List String}
  {source : Option Source} {r : Resource} {rs : List Resource} {b : BarButton} {bar : ActionBar}

/-- The bar has these names checked, each of them recorded as `f` has it, and every button is as
the gate says. -/
structure Checked (f : String → Option Resource) (p : Permissions) (names : List String)
    (bar : ActionBar) : Prop where
  permissions : bar.permissions = p
  recorded : ∀ name ∈ names, Snapshots.get? name bar.snapshots = f name
  states : ∀ b, bar.states.get b = gated p names (names.filterMap f) b

namespace Checked

/-- Nothing is checked on a bar that was just loaded. -/
theorem of_loaded {after : ActionBar} (h : Loaded bar p after) (f : String → Option Resource) :
    Checked f p [] after where
  permissions := h.permissions
  recorded _ hname := absurd hname List.not_mem_nil
  states b := by rw [h.states, gated_nil]

/-- Once more a resource is checked, for the first time or again, in a table that then lists the
checked names. -/
theorem change (h : Checked f p names bar) (hr : f r.name = some r)
    (hsource : Source.selection source = .ok listed)
    (hlisted : ∀ name, name ∈ listed ↔ name ∈ names ++ [r.name]) :
    ∃ after, bar.selectionChanged r true source = (after, .ok ()) ∧
      Checked f p (names ++ [r.name]) after := by
  let call : Recomputation := .change r true
  have ht : call.Truthful listed := fun r' hr' => by
    obtain ⟨rfl, -⟩ := Recomputation.change.inj hr'
    simp [hlisted]
  have hadj := Recomputation.adjusts_run call source bar
  have hget := Recomputation.get_run hsource ht bar
  have hrecorded : ∀ name ∈ names ++ [r.name],
      Snapshots.get? name (bar.record r).snapshots = f name := by
    intro name hname
    rw [ActionBar.record, Snapshots.get?_record]
    split
    · next heq => rw [heq, hr]
    · next hne =>
      have hname : name ∈ names := by simpa [hne] using hname
      exact h.recorded name hname
  -- the bar goes by the names as they are listed, which is the same to the gate
  have hnil : listed = [] ↔ names ++ [r.name] = [] := by
    simp only [List.eq_nil_iff_forall_not_mem, hlisted]
  have hselected : ∀ r', r' ∈ Snapshots.selected listed (call.note bar).snapshots ↔
      r' ∈ (names ++ [r.name]).filterMap f := by
    intro r'
    rw [Snapshots.mem_selected, List.mem_filterMap]
    refine exists_congr fun name => ?_
    rw [hlisted]
    exact and_congr_right fun hname => by rw [← hrecorded name hname]; rfl
  have hp : (call.run source bar).1.permissions = p := hadj.permissions.trans h.permissions
  refine ⟨(call.run source bar).1, ?_, hp, fun name hname => ?_, fun b => ?_⟩
  · exact Prod.ext rfl (Recomputation.run_ok hsource call bar)
  · rw [hadj.snapshots]
    exact hrecorded name hname
  · rw [hget, h.permissions, gate_congr hnil hselected, gated]
    -- what is hidden is so for want of permission, since the bar before was as the gate says
    by_cases hb : p.allows b.capability = false
    · rw [if_pos ((h.states b).trans (gated_eq_hidden_iff.mpr hb)), if_neg (by simp [hb])]
    · rw [if_neg fun hh => hb (gated_eq_hidden_iff.mp ((h.states b).symm.trans hh)),
        if_pos (by simpa using hb)]

end Checked

end Lockable.ActionBar
