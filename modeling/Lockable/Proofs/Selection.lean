import Mathlib.Data.List.Nodup
import Lockable.Selection

/-!
# What is selected

The laws of a selection: `distinct` keeps every name once and leaves a list without repetitions
alone, and the snapshots of a selection are those that were recorded **last** under its names.

Recording a whole listing is a fold over it. Afterwards the last entry of a name is found under it
(`Snapshots.get?_recordAll_eq_last`), so every entry of a listing with distinct names
(`Snapshots.get?_recordAll_of_nodup`).
-/

namespace Lockable

/-! ### Names without repetitions -/

@[simp]
theorem mem_distinct {name : String} {names : List String} :
    name ∈ distinct names ↔ name ∈ names := by
  induction names with
  | nil => simp [distinct]
  | cons head rest ih =>
    simp only [distinct, List.mem_cons, List.mem_filter, ih, decide_eq_true_eq]
    by_cases h : name = head <;> simp [h]

/-- No name is left twice. -/
theorem nodup_distinct (names : List String) : (distinct names).Nodup := by
  induction names with
  | nil => exact List.nodup_nil
  | cons head rest ih =>
    refine List.nodup_cons.mpr ⟨?_, ih.filter _⟩
    simp

/-- Names that differ are left as they are. -/
theorem distinct_of_nodup {names : List String} (h : names.Nodup) : distinct names = names := by
  induction names with
  | nil => rfl
  | cons head rest ih =>
    obtain ⟨hhead, hrest⟩ := List.nodup_cons.mp h
    rw [distinct, ih hrest, List.filter_eq_self.mpr]
    rintro name hname
    simpa using fun heq : name = head => hhead (heq ▸ hname)

@[simp]
theorem distinct_eq_nil {names : List String} : distinct names = [] ↔ names = [] := by
  cases names <;> simp [distinct]

/-! ### Snapshots -/

namespace Snapshots

variable {snapshots : Snapshots} {r : Resource} {name : String}

@[simp]
theorem get?_record_self (r : Resource) (snapshots : Snapshots) :
    get? r.name (record r snapshots) = some r :=
  Keyed.find?_insert_self _ _ _

/-- What is found under a name after one more snapshot. -/
theorem get?_record :
    get? name (record r snapshots) = if name = r.name then some r else get? name snapshots := by
  by_cases h : name = r.name
  · subst h
    simp
  · rw [if_neg h]
    exact Keyed.find?_insert_of_ne h _ _

/-- Recording what is found already changes nothing that can be found. -/
theorem get?_record_of_get? (h : get? r.name snapshots = some r) :
    get? name (record r snapshots) = get? name snapshots := by
  rw [get?_record]
  split
  · next heq => rw [heq, h]
  · rfl

/-- After resources were recorded, the last one of a name is found under it, and what was there
before under all other names. -/
theorem get?_recordAll_eq_last (rs : List Resource) (snapshots : Snapshots) (name : String) :
    get? name (rs.foldl (fun snapshots r => record r snapshots) snapshots) =
      (rs.reverse.find? (·.name = name)).or (get? name snapshots) := by
  induction rs generalizing snapshots with
  | nil => rfl
  | cons r rest ih =>
    rw [List.foldl_cons, ih, get?_record, List.reverse_cons, List.find?_append, Option.or_assoc]
    by_cases h : name = r.name
    · rw [if_pos h, List.find?_singleton, if_pos (by simp [h]), Option.some_or]
    · rw [if_neg h, List.find?_singleton, if_neg (by simp [Ne.symm h]), Option.none_or]

/-- Under a name that occurs one of the resources of that name is found. -/
theorem exists_get?_recordAll {rs : List Resource} (h : name ∈ rs.map Resource.name)
    (snapshots : Snapshots) :
    ∃ last ∈ rs, last.name = name ∧
      get? name (rs.foldl (fun snapshots r => record r snapshots) snapshots) = some last := by
  have hsome : (rs.reverse.find? (·.name = name)).isSome := by
    simpa using h
  obtain ⟨last, hlast⟩ := Option.isSome_iff_exists.mp hsome
  refine ⟨last, List.mem_reverse.mp (List.mem_of_find?_eq_some hlast), ?_, ?_⟩
  · simpa using List.find?_some hlast
  · rw [get?_recordAll_eq_last, hlast, Option.some_or]

/-- A listing with distinct names is found entry by entry. -/
theorem get?_recordAll_of_nodup {listing : List Resource}
    (h : (listing.map Resource.name).Nodup) (hr : r ∈ listing) (snapshots : Snapshots) :
    get? r.name (listing.foldl (fun snapshots r => record r snapshots) snapshots) = some r := by
  obtain ⟨last, hlast, hname, hget⟩ :=
    exists_get?_recordAll (List.mem_map_of_mem hr : r.name ∈ _) snapshots
  rw [hget, List.inj_on_of_nodup_map h hlast hr hname]

@[simp]
theorem selected_nil (snapshots : Snapshots) : selected [] snapshots = [] := rfl

/-- The snapshots of a selection are those found under its names. -/
theorem mem_selected {names : List String} :
    r ∈ selected names snapshots ↔ ∃ name ∈ names, get? name snapshots = some r :=
  List.mem_filterMap

/-- Where every name has a snapshot, something holds of the snapshots of these names if it holds of
the snapshot of each. -/
theorem forall_selected_iff {names : List String} {P : Resource → Prop}
    (h : ∀ name ∈ names, ∃ r, get? name snapshots = some r) :
    (∀ r ∈ selected names snapshots, P r) ↔
      ∀ name ∈ names, ∃ r, get? name snapshots = some r ∧ P r := by
  simp only [mem_selected]
  constructor
  · intro hall name hname
    obtain ⟨r, hr⟩ := h name hname
    exact ⟨r, hr, hall r ⟨name, hname, hr⟩⟩
  · rintro hall r ⟨name, hname, hr⟩
    obtain ⟨r', hr', hP⟩ := hall name hname
    cases hr.symm.trans hr'
    exact hP

end Snapshots

end Lockable
