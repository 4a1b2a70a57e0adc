/-!
# Keyed lists

A mapping that remembers the order of its keys: a list of keys with values, each key once. Setting
a key that is there keeps its **place** and changes its value; a new key goes to the end.

Main statements: what `find?` sees after `insert` and after `erase`.
-/

namespace Lockable

/-- Keys with values in the order in which the keys came. -/
abbrev Keyed (κ α : Type) : Type := List (κ × α)

namespace Keyed

variable {κ α : Type} [DecidableEq κ]

/-- The value of a key. -/
def find? (key : κ) : List (κ × α) → Option α
  | [] => none
  | (k, v) :: rest => if k = key then some v else find? key rest

/-- Sets the value of a key. -/
def insert (key : κ) (value : α) : List (κ × α) → List (κ × α)
  | [] => [(key, value)]
  | (k, v) :: rest => if k = key then (k, value) :: rest else (k, v) :: insert key value rest

/-- Takes a key out. -/
def erase (key : κ) (entries : List (κ × α)) : List (κ × α) :=
  entries.filter fun e => e.1 ≠ key

/-- The mapping of these entries, a later value of a key replacing an earlier one. -/
def ofEntries (entries : List (κ × α)) : List (κ × α) :=
  entries.foldl (fun done e => insert e.1 e.2 done) []

@[simp] theorem find?_nil (key : κ) : find? key ([] : List (κ × α)) = none := rfl

/-- A value that is found stands in the list with its key. -/
theorem mem_of_find? {key : κ} {value : α} {entries : List (κ × α)}
    (h : find? key entries = some value) : (key, value) ∈ entries := by
  induction entries with
  | nil => cases h
  | cons e rest ih =>
    obtain ⟨k, v⟩ := e
    rw [find?] at h
    split at h
    · next hk =>
      cases h
      exact hk ▸ List.mem_cons_self
    · exact List.mem_cons_of_mem _ (ih h)

/-- Only a key that is not in the list has no value. -/
theorem find?_eq_none_iff {key : κ} {entries : List (κ × α)} :
    find? key entries = none ↔ key ∉ entries.map Prod.fst := by
  induction entries with
  | nil => simp
  | cons e rest ih =>
    obtain ⟨k, v⟩ := e
    by_cases h : k = key
    · simp [find?, h]
    · simp [find?, h, Ne.symm h, ih]

/-- Where no key is twice, what stands in the list with a key is the value of the key. -/
theorem find?_eq_some_iff {key : κ} {value : α} {entries : List (κ × α)}
    (h : (entries.map Prod.fst).Nodup) :
    find? key entries = some value ↔ (key, value) ∈ entries := by
  refine ⟨mem_of_find?, fun hmem => ?_⟩
  induction entries with
  | nil => cases hmem
  | cons e rest ih =>
    obtain ⟨k, v⟩ := e
    obtain ⟨hk, hrest⟩ := List.nodup_cons.mp h
    rcases List.mem_cons.mp hmem with heq | hmem
    · cases heq
      simp [find?]
    · have hne : k ≠ key := fun heq => hk (List.mem_map.mpr ⟨_, hmem, heq.symm⟩)
      rw [find?, if_neg hne, ih hrest hmem]

/-- A key that was set has its new value. -/
@[simp] theorem find?_insert_self (key : κ) (value : α) (entries : List (κ × α)) :
    find? key (insert key value entries) = some value := by
  induction entries with
  | nil => simp [insert, find?]
  | cons e rest ih =>
    obtain ⟨k, v⟩ := e
    by_cases h : k = key <;> simp [insert, find?, h, ih]

/-- Setting a key leaves the others alone. -/
theorem find?_insert_of_ne {key other : κ} (h : other ≠ key) (value : α)
    (entries : List (κ × α)) : find? other (insert key value entries) = find? other entries := by
  induction entries with
  | nil => simp [insert, find?, Ne.symm h]
  | cons e rest ih =>
    obtain ⟨k, v⟩ := e
    by_cases hk : k = key
    · subst hk
      simp [insert, find?, Ne.symm h]
    · simp [insert, find?, hk, ih]

/-- A new key goes to the end. -/
theorem insert_of_notMem {key : κ} {entries : List (κ × α)} (h : key ∉ entries.map Prod.fst)
    (value : α) : insert key value entries = entries ++ [(key, value)] := by
  induction entries with
  | nil => rfl
  | cons e rest ih =>
    obtain ⟨hne, hrest⟩ := not_or.mp (mt List.mem_cons.mpr h)
    rw [insert, if_neg (Ne.symm hne), ih hrest]
    rfl

/-- A key that was taken out has no value. -/
@[simp] theorem find?_erase_self (key : κ) (entries : List (κ × α)) :
    find? key (erase key entries) = none := by
  induction entries with
  | nil => rfl
  | cons e rest ih =>
    obtain ⟨k, v⟩ := e
    by_cases h : k = key
    · simpa [erase, h] using ih
    · simpa [erase, find?, h] using ih

/-- Taking a key out leaves the others alone. -/
theorem find?_erase_of_ne {key other : κ} (h : other ≠ key) (entries : List (κ × α)) :
    find? other (erase key entries) = find? other entries := by
  induction entries with
  | nil => rfl
  | cons e rest ih =>
    obtain ⟨k, v⟩ := e
    by_cases hk : k = key
    · subst hk
      simpa [erase, find?, Ne.symm h] using ih
    · by_cases ho : k = other
      · subst ho
        simp [erase, find?, hk]
      · simpa [erase, find?, hk, ho] using ih

/-- What is found after a key was taken out was there before, with another key. -/
theorem find?_erase_eq_some_iff {key other : κ} {value : α} {entries : List (κ × α)} :
    find? other (erase key entries) = some value ↔
      other ≠ key ∧ find? other entries = some value := by
  by_cases h : other = key
  · simp [h]
  · simp [h, find?_erase_of_ne h]

/-- Taking a key out leaves no key twice. -/
theorem nodup_erase {entries : List (κ × α)} (h : (entries.map Prod.fst).Nodup) (key : κ) :
    ((erase key entries).map Prod.fst).Nodup :=
  h.sublist (List.filter_sublist.map Prod.fst)

end Keyed

end Lockable
