import Mathlib.Tactic.Tauto
import Lockable.Resource.Rules
import Lockable.Settings

/-!
# What follows from grants

A mapping grants a capability when **some** key of it stands for the capability and has a value that
counts (`Grants.has_collect_iff`), wherever the key is and whatever else the mapping has.

The grants of a configuration can always be read, and whatever they are, administering widens every
other capability. So the rules never allow an action that is not permitted: each asks for the
capability of its action or for administering. Permissions are ordered by what they allow, and
whatever can be granted is **monotone**: more grants give more permissions
(`Permissions.ofMembers_mono`), and more permissions allow more (`Resource.allows_mono`). That an
administrator is asked another question than the rest does no harm there, as whatever the user has
reserved is reserved.
-/

namespace Lockable

/-! ### Gathering grants -/

namespace Grants

variable {grants : List (Capability × Bool)} {c : Capability}

/-- One more member grants what it gives, and takes nothing away. -/
theorem has_note_iff {m : PermissionKey × Json} :
    has (note grants m) c = true ↔
      has grants c = true ∨ (m.1.read? = some c ∧ m.2.truthy = true) := by
  rw [note]
  rcases hread : m.1.read? with _ | d
  · simp
  · by_cases hd : c = d
    · subst hd
      simp [has]
    · rw [has, Keyed.find?_insert_of_ne hd, ← has]
      simp [Ne.symm hd]

/-- **What is gathered is what is given.** -/
theorem has_collect_iff {members : List (PermissionKey × Json)} :
    has (collect members) c = true ↔ Gives members c := by
  have hall : ∀ grants, has (members.foldl note grants) c = true ↔
      has grants c = true ∨ Gives members c := by
    induction members with
    | nil => simp [Gives]
    | cons m rest ih =>
      intro grants
      rw [List.foldl_cons, ih, has_note_iff, or_assoc]
      simp only [Gives, List.mem_cons, exists_eq_or_imp]
  rw [collect, hall, or_iff_right (by simp [has])]

theorem gives_ofTexts_iff {members : List (String × Json)} :
    Gives (ofTexts members) c ↔ Given members c := by
  simp only [Gives, ofTexts, List.mem_map, exists_exists_and_eq_and]
  rfl

theorem has_collect_ofTexts_iff {members : List (String × Json)} :
    has (collect (ofTexts members)) c = true ↔ Given members c :=
  has_collect_iff.trans gives_ofTexts_iff

end Grants

/-! ### Permissions -/

namespace Permissions

/-- What follows from the grants of a configuration. -/
def ofSettings (grants : List (String × Bool)) : Permissions :=
  ofMembers (grants.map fun (k, v) => (k, .bool v))

@[simp]
theorem derive_permissionMapping (grants : List (String × Bool)) :
    derive (Settings.permissionMapping grants) = .ok (ofSettings grants) := by
  cases grants <;> rfl

/-- Whoever administers may do everything. -/
theorem allows_of_administer {members : List (String × Json)} (c : Capability)
    (h : (ofMembers members).allows .administer = true) : (ofMembers members).allows c = true := by
  have hadminister : Grants.has (Grants.collect (Grants.ofTexts members)) .administer = true := h
  cases c <;> simp [ofMembers, ofMapping, ofGrants, hadminister]

/-- What follows from the members of an object, if it has any or not. -/
@[simp]
theorem derive_object (members : List (String × Json)) :
    derive (.object members) = .ok (ofMembers members) := by
  cases members <;> rfl

/-- Permissions are within others that allow at least as much. -/
instance : LE Permissions := ⟨fun p q => ∀ c, p.allows c = true → q.allows c = true⟩

/-- The capabilities that can be granted; all others follow from them. -/
def grantable : List Capability := [.unlock, .steal, .reserve, .administer]

/-- **More grants give more permissions**: what cannot be granted does not count. -/
theorem ofMembers_mono {members members' : List (String × Json)}
    (h : ∀ c ∈ grantable, Grants.Given members c → Grants.Given members' c) :
    ofMembers members ≤ ofMembers members' := by
  have hhas : ∀ c ∈ grantable, Grants.has (Grants.collect (Grants.ofTexts members)) c = true →
      Grants.has (Grants.collect (Grants.ofTexts members')) c = true := by
    simpa only [Grants.has_collect_ofTexts_iff] using h
  have hunlock := hhas .unlock (by decide)
  have hsteal := hhas .steal (by decide)
  have hreserve := hhas .reserve (by decide)
  have hadminister := hhas .administer (by decide)
  intro c hc
  cases c <;> simp only [ofMembers, ofMapping, ofGrants, Bool.or_eq_true] at hc ⊢ <;> tauto

end Permissions

/-! ### What the rules allow -/

/-- **More permissions allow more**, for a resource that is reserved if the user has reserved it. -/
theorem Resource.allows_mono {p q : Permissions} {r : Resource} {a : RowAction} (hpq : p ≤ q)
    (hown : r.isReservedByCurrentUser = true → r.isReserved = true)
    (h : r.allows p a = true) : r.allows q a = true := by
  have hunreserve : r.canUnreserve p = true → r.canUnreserve q = true := by
    intro h
    rw [canUnreserve] at h ⊢
    by_cases hq : q.allows .administer = true
    · -- whoever has come to administer is asked whether it is reserved at all
      rw [if_pos hq]
      split at h
      · exact h
      · exact hown (Bool.and_eq_true_iff.mp h).1
    · rw [if_neg (mt (hpq _) hq), Bool.and_eq_true_iff] at h
      rw [if_neg hq, Bool.and_eq_true_iff]
      exact ⟨h.1, hpq _ h.2⟩
  have hunlock : r.canUnlock p = true → r.canUnlock q = true := by
    simp only [canUnlock, Bool.and_eq_true_iff]
    exact fun h => ⟨h.1, hpq _ h.2⟩
  cases a with
  | unlock => exact hunlock h
  | steal =>
    simp only [allows, canSteal, Bool.and_eq_true_iff] at h ⊢
    exact ⟨h.1, hpq _ h.2⟩
  | reserve =>
    simp only [allows, canReserve, Bool.and_eq_true_iff] at h ⊢
    exact ⟨h.1, hpq _ h.2⟩
  | unreserve => exact hunreserve h
  | reassign =>
    rw [allows, canReassign] at h ⊢
    split at h
    · next hreserved =>
      rw [if_pos hreserved]
      simp only [Bool.or_eq_true, Bool.and_eq_true] at h ⊢
      exact h.imp (hpq _) fun h => ⟨⟨h.1.1, hpq _ h.1.2⟩, hpq _ h.2⟩
    · next hreserved =>
      rw [if_neg hreserved]
      simp only [Bool.and_eq_true] at h ⊢
      exact ⟨h.1, hpq _ h.2⟩
  | reset =>
    simp only [allows, canReset, Bool.and_eq_true, Bool.or_eq_true] at h ⊢
    exact ⟨hpq _ h.1, h.2.imp_left (Or.imp hunlock hunreserve)⟩

/-- **What the rules allow is permitted.** -/
theorem Resource.permitted_of_allows {members : List (String × Json)} {r : Resource} {a : RowAction}
    (h : r.allows (.ofMembers members) a = true) :
    (Permissions.ofMembers members).allows a.capability = true := by
  have hall : ∀ c, (Permissions.ofMembers members).allows .administer = true →
      (Permissions.ofMembers members).allows c = true := Permissions.allows_of_administer
  cases a with
  | unlock => exact (Bool.and_eq_true_iff.mp h).2
  | steal => exact (Bool.and_eq_true_iff.mp h).2
  | reserve => exact (Bool.and_eq_true_iff.mp h).2
  | unreserve =>
    rw [allows, canUnreserve] at h
    split at h
    · next hadminister => exact hall _ hadminister
    · exact (Bool.and_eq_true_iff.mp h).2
  | reassign =>
    rw [allows, canReassign] at h
    split at h
    · rcases Bool.or_eq_true_iff.mp h with hadminister | hown
      · exact hall _ hadminister
      · exact (Bool.and_eq_true_iff.mp hown).2
    · exact hall _ (Bool.and_eq_true_iff.mp h).2
  | reset => exact (Bool.and_eq_true_iff.mp h).1

end Lockable
