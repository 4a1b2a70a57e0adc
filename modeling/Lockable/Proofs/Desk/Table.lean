import Lockable.Desk.Row
import Lockable.Proofs.Gating

/-!
# The table and the bar

What the action bar has to do with of a table are its **marks**: the resources in row order and
which of them are checked. Notes and their buttons do not concern it.

The bar is **ready** for a table when the rows have different names, each is recorded as it stands
in the table, hidden buttons are those that the permissions deny, and the screen is up with the
states. Bar and table **agree** when also every state is what the gate gives for the checked rows. A
truthful recomputation makes a bar agree that is ready (`Ready.run`), whatever its states were.
-/

namespace Lockable.Desk

/-! ### Marks -/

namespace Table

variable {rows rows' : Table}

/-- The resources of the checked rows. -/
def checkedResources (rows : Table) : List Resource := (rows.filter (·.checked)).map Row.resource

/-- The resources of the rows with their checkboxes. -/
def marks (rows : Table) : List (Resource × Bool) := rows.map fun row => (row.resource, row.checked)

theorem resources_eq_marks (rows : Table) : rows.map Row.resource = rows.marks.map (·.1) := by
  rw [marks, List.map_map]
  rfl

theorem checkedNames_eq_marks (rows : Table) :
    rows.checkedNames = (rows.marks.filter (·.2)).map (·.1.name) := by
  rw [marks, List.filter_map, List.map_map]
  rfl

theorem checkedResources_eq_marks (rows : Table) :
    rows.checkedResources = (rows.marks.filter (·.2)).map (·.1) := by
  rw [marks, List.filter_map, List.map_map]
  rfl

/-- What a change of one row does not concern is the same in all rows. -/
private theorem map_modify {α : Type} (f : Row → α) (g : Row → Row) (h : ∀ r, f (g r) = f r)
    (row : Nat) (rows : Table) : List.map f (rows.modify row g) = rows.map f := by
  refine List.ext_getElem? fun i => ?_
  rw [List.getElem?_map, List.getElem?_map, List.getElem?_modify, Option.map_eq_map, Option.map_map]
  congr 1
  funext r
  rw [Function.comp]
  split
  · exact h r
  · rfl

/-- Changing the note of a row leaves the marks. -/
theorem marks_setNote (row : Nat) (note : NoteArea) (rows : Table) :
    (rows.setNote row note).marks = rows.marks :=
  map_modify (fun r => (r.resource, r.checked)) (fun r => { r with note }) (fun _ => rfl) row rows

theorem resources_check (row : Nat) (checked : Bool) (rows : Table) :
    List.map Row.resource (rows.modify row fun r => { r with checked }) =
      rows.map Row.resource :=
  map_modify Row.resource (fun r => { r with checked }) (fun _ => rfl) row rows

theorem resources_setAll (checked : Bool) (rows : Table) :
    (rows.setAll checked).map Row.resource = rows.map Row.resource := by
  rw [setAll, List.map_map]
  rfl

theorem mem_checkedNames {name : String} :
    name ∈ rows.checkedNames ↔ ∃ row ∈ rows, row.checked = true ∧ row.name = name := by
  simp [checkedNames, and_assoc]

theorem mem_checkedResources {r : Resource} :
    r ∈ rows.checkedResources ↔ ∃ row ∈ rows, row.checked = true ∧ row.resource = r := by
  simp [checkedResources, and_assoc]

/-- What is announced when all checkboxes are set are resources of rows that are then set so. -/
theorem exists_of_mem_differing {checked : Bool} {r : Resource} (h : r ∈ rows.differing checked) :
    ∃ row ∈ rows.setAll checked, row.checked = checked ∧ row.resource = r := by
  obtain ⟨row, hrow, rfl⟩ := List.mem_map.mp h
  exact ⟨{ row with checked }, List.mem_map_of_mem (List.mem_of_mem_filter hrow), rfl, rfl⟩

/-- Where no checkbox differs, setting them all changes nothing that concerns the bar. -/
theorem marks_setAll {checked : Bool} (h : rows.differing checked = []) :
    (rows.setAll checked).marks = rows.marks := by
  rw [differing, List.map_eq_nil_iff, List.filter_eq_nil_iff] at h
  rw [marks, setAll, List.map_map]
  refine List.map_congr_left fun row hrow => ?_
  have hchecked : row.checked = checked := by simpa using h row hrow
  rw [← hchecked]
  rfl

/-- A fresh row has the resource and the checkbox that it was made with. -/
private theorem mark_of_make {screen : Marks} {checked noteButton : Bool} {r : Resource} {row : Row}
    (h : Row.make screen checked noteButton r = .ok row) :
    (row.resource, row.checked) = (r, checked) := by
  obtain ⟨-, rfl⟩ := Row.make_eq_ok_iff.mp h
  rfl

/-- The rows of a listing are its entries, each checked if a row of its name was. -/
theorem marks_redraw {screen : Marks} {noteButton : Bool} {listing : List Resource}
    (h : rows.redraw screen noteButton listing = .ok rows') :
    rows'.marks = listing.map fun r => (r, rows.checkedNames.contains r.name) := by
  rw [redraw] at h
  induction listing generalizing rows' with
  | nil =>
    cases h
    rfl
  | cons r rest ih =>
    rw [List.mapM_cons] at h
    obtain ⟨row, hrow, h⟩ := exists_of_bind_eq_ok h
    obtain ⟨rows'', hrest, h⟩ := exists_of_bind_eq_ok h
    cases h
    rw [List.map_cons, ← ih hrest, ← mark_of_make hrow]
    rfl

theorem resources_redraw {screen : Marks} {noteButton : Bool} {listing : List Resource}
    (h : rows.redraw screen noteButton listing = .ok rows') : rows'.map Row.resource = listing := by
  rw [resources_eq_marks, marks_redraw h, List.map_map]
  exact List.map_id _

end Table

/-! ### Agreement -/

/-- The bar is **ready** for the table: only the states of its shown buttons may be wrong. -/
structure Ready (rows : Table) (bar : ActionBar) : Prop where
  distinct : (rows.map Row.name).Nodup
  recorded : ∀ row ∈ rows, Snapshots.get? row.name bar.snapshots = some row.resource
  hidden : ∀ b, bar.states.get b = .hidden ↔ bar.permissions.allows b.capability = false
  shown : bar.Shown

/-- Table and bar **agree**: every button is as the gate says for the checked rows. -/
structure Agree (rows : Table) (bar : ActionBar) : Prop extends Ready rows bar where
  states : ∀ b, bar.states.get b =
    ActionBar.gated bar.permissions rows.checkedNames rows.checkedResources b

variable {rows rows' : Table} {bar after : ActionBar}

namespace Ready

/-- A table with the same resources can take the place of the other. -/
theorem of_resources (h : Ready rows bar) (heq : rows'.map Row.resource = rows.map Row.resource) :
    Ready rows' bar where
  distinct := by
    have hnames := congrArg (List.map Resource.name) heq
    rw [List.map_map, List.map_map] at hnames
    exact hnames ▸ h.distinct
  recorded row hrow := by
    have hmem : row.resource ∈ rows.map Row.resource := heq ▸ List.mem_map_of_mem hrow
    obtain ⟨row₀, hrow₀, hresource⟩ := List.mem_map.mp hmem
    rw [Row.name, ← hresource]
    exact h.recorded row₀ hrow₀
  hidden := h.hidden
  shown := h.shown

theorem nodup_checkedNames (h : Ready rows bar) : rows.checkedNames.Nodup :=
  h.distinct.sublist (List.filter_sublist.map _)

/-- What is selected are the checked rows, in row order. -/
theorem selection (h : Ready rows bar) : Source.selection rows.source = .ok rows.checkedNames :=
  congrArg Except.ok (distinct_of_nodup h.nodup_checkedNames)

/-- The snapshots of the selection are the resources of the checked rows. -/
theorem selected (h : Ready rows bar) :
    Snapshots.selected rows.checkedNames bar.snapshots = rows.checkedResources := by
  rw [Snapshots.selected, Table.checkedNames, List.filterMap_map, Table.checkedResources,
    ← List.filterMap_eq_map]
  refine List.filterMap_congr fun row hrow => ?_
  exact h.recorded row (List.mem_of_mem_filter hrow)

/-- Recording the resource of a row leaves the bar ready. -/
theorem record (h : Ready rows bar) {row : Row} (hrow : row ∈ rows) :
    Ready rows (bar.record row.resource) where
  distinct := h.distinct
  recorded row' hrow' := by
    rw [ActionBar.record, Snapshots.get?_record_of_get? (h.recorded row hrow)]
    exact h.recorded row' hrow'
  hidden := h.hidden
  shown := h.shown

/-- Adjusting the bar leaves it ready. -/
theorem adjust (h : Ready rows bar) (hadj : bar.Adjusts after) : Ready rows after where
  distinct := h.distinct
  recorded row hrow := by
    rw [hadj.snapshots]
    exact h.recorded row hrow
  hidden b := by rw [hadj.hidden, hadj.permissions, h.hidden]
  shown := hadj.shown h.shown

/-- **A truthful recomputation makes a ready bar agree.** -/
theorem run (call : ActionBar.Recomputation) (h : Ready rows bar)
    (hnote : Ready rows (call.note bar)) (ht : call.Truthful rows.checkedNames) :
    (call.run rows.source bar).2 = .ok () ∧ Agree rows (call.run rows.source bar).1 ∧
      (call.run rows.source bar).1.permissions = bar.permissions := by
  have hadj := ActionBar.Recomputation.adjusts_run call rows.source bar
  have hp : (call.note bar).permissions = bar.permissions := by cases call <;> rfl
  refine ⟨ActionBar.Recomputation.run_ok h.selection call bar, ⟨hnote.adjust hadj, fun b => ?_⟩,
    hadj.permissions.trans hp⟩
  rw [ActionBar.Recomputation.get_run h.selection ht, hnote.selected, hadj.permissions, hp,
    ActionBar.gated]
  -- the call goes by what is hidden, the gate by what is permitted
  by_cases hb : bar.states.get b = .hidden
  · rw [if_pos hb, if_neg (by simp [(h.hidden b).mp hb])]
  · rw [if_neg hb, if_pos (by simpa using mt (h.hidden b).mpr hb)]

end Ready

namespace Agree

/-- Only the marks of a table matter. -/
theorem of_marks (h : Agree rows bar) (heq : rows'.marks = rows.marks) : Agree rows' bar where
  toReady := h.toReady.of_resources (by
    rw [Table.resources_eq_marks, Table.resources_eq_marks, heq])
  states b := by
    rw [h.states, Table.checkedNames_eq_marks rows', Table.checkedResources_eq_marks rows', heq,
      ← Table.checkedNames_eq_marks, ← Table.checkedResources_eq_marks]

/-- A row action that is enabled has rows to act on, and each of them allows it. -/
theorem allows_of_enabled (h : Agree rows bar) {a : RowAction}
    (ha : bar.states.get (.action a) = .enabled) :
    rows.checkedNames ≠ [] ∧
      ∀ row ∈ rows, row.checked = true → row.resource.allows bar.permissions a = true := by
  rw [h.states, ActionBar.gated] at ha
  split at ha
  · obtain ⟨hne, hall⟩ := ActionBar.gate_action_eq_enabled_iff.mp ha
    exact ⟨hne, fun row hrow hchecked =>
      hall _ (Table.mem_checkedResources.mpr ⟨row, hrow, hchecked, rfl⟩)⟩
  · cases ha

end Agree

end Lockable.Desk
