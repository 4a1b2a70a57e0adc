import Lockable.Proofs.Spelling

/-!
# The table that follows from a mapping

A permission mapping **gives** a capability if one of its keys stands for the capability and has a
value that counts (`Grants.Gives`). What then follows is a table (`Permissions.sources`): each
capability has grants of which one is enough.

A mapping whose keys are texts is the case that is read from files (`Permissions.derive`).
-/

namespace Lockable

namespace Permissions

open Grants (Gives)

/-- The grants of which one is enough for a capability. -/
def sources : Capability → List Capability
  | .unlock => [.unlock, .administer]
  | .reset => [.unlock, .administer]
  | .steal => [.steal, .administer]
  | .reassign => [.steal, .administer]
  | .reserve => [.reserve, .administer]
  | .unreserve => [.reserve, .administer]
  | .edit => [.unlock, .steal, .reserve, .administer]
  | .administer => [.administer]

/-- The member **counts**: its value does, and its key stands for a capability that can be
granted. -/
def Counts (m : PermissionKey × Json) : Prop :=
  m.2.truthy = true ∧ ∃ c ∈ grantable, m.1.read? = some c

instance (m : PermissionKey × Json) : Decidable (Counts m) :=
  inferInstanceAs (Decidable (_ ∧ ∃ c ∈ grantable, _))

variable {members members' : List (PermissionKey × Json)} {c g : Capability}

theorem mem_grantable_of_mem_sources (h : g ∈ sources c) : g ∈ grantable := by
  revert h
  cases c <;> cases g <;> decide

/-- Each capability follows from any one of its sources, and from nothing else. -/
theorem allows_ofMapping_iff :
    (ofMapping members).allows c = true ↔ ∃ g ∈ sources c, Gives members g := by
  simp only [← Grants.has_collect_iff]
  cases c <;> simp [ofMapping, ofGrants, sources]
  -- editing is the one capability whose sources are asked in another order than they are listed
  tauto

/-- What a mapping gives depends on the members that count. -/
theorem gives_of_counts (h : ∀ m, Counts m → m ∈ members → m ∈ members') (hc : c ∈ grantable)
    (hgives : Gives members c) : Gives members' c := by
  obtain ⟨m, hm, hread, htruthy⟩ := hgives
  exact ⟨m, h m ⟨htruthy, c, hc, hread⟩ hm, hread, htruthy⟩

theorem ofMapping_mono (h : ∀ m, Counts m → m ∈ members → m ∈ members') :
    ofMapping members ≤ ofMapping members' := by
  intro c hallows
  obtain ⟨g, hg, hgives⟩ := allows_ofMapping_iff.mp hallows
  exact allows_ofMapping_iff.mpr
    ⟨g, hg, gives_of_counts h (mem_grantable_of_mem_sources hg) hgives⟩

/-- **The table of grants.** Take any mapping, under capabilities or texts that spell some or none,
in any spelling and order, and with any values.

* A capability follows from it exactly if it gives one of the sources of the capability.
* So two mappings come to the same if the members that count are the same: neither the order
  matters, nor how often a member is there, nor a key that stands for no capability, nor a value
  that does not count, nor a grant of resetting, reassigning, unreserving or editing.
* A mapping under texts can always be read and comes to just this, and no mapping to nothing. -/
theorem table_of_grants (members : List (PermissionKey × Json)) :
    (∀ c, (ofMapping members).allows c = true ↔ ∃ g ∈ sources c,
      ∃ m ∈ members, m.1.read? = some g ∧ m.2.truthy = true) ∧
    (∀ members' : List (PermissionKey × Json),
      (∀ m, Counts m → (m ∈ members' ↔ m ∈ members)) → ofMapping members' = ofMapping members) ∧
    (∀ texts : List (String × Json),
      derive (.object texts) = .ok (ofMapping (texts.map fun m => (.text m.1, m.2)))) ∧
    ∀ raw : Json, raw.truthy = false → derive raw = .ok (ofMapping []) := by
  refine ⟨fun c => allows_ofMapping_iff, fun members' h => ?_, derive_object, fun raw hraw => ?_⟩
  · exact eq_of_le_of_le (ofMapping_mono fun m hm => (h m hm).mp)
      (ofMapping_mono fun m hm => (h m hm).mpr)
  · have hnone : Permissions.members raw = .ok [] := by
      unfold Permissions.members
      rw [hraw]
      rfl
    rw [derive, hnone]
    rfl

/-- Stealing is given by the capability itself, and unlocking under one of its spellings. A key that
stands for nothing, a grant that cannot be given and another order change nothing. -/
theorem table_of_grants_spellings :
    let steal : PermissionKey × Json := (.capability .steal, .text "yes")
    let unlock : PermissionKey × Json := (.text " unLock", .int 1)
    let refused : PermissionKey × Json := (.text "UNLOCK", .bool false)
    let idle : List (PermissionKey × Json) :=
      [(.text "", .bool true), (.text "view", .bool true), (.capability .reserve, .list []),
        (.text "unreserve", .bool true)]
    let p := ofMapping [refused, unlock, steal]
    p.allows .reset = true ∧ p.allows .reassign = true ∧ p.allows .unreserve = false ∧
      ofMapping (idle ++ [steal, unlock]) = p := by
  intro steal unlock refused idle p
  obtain ⟨htable, hsame, -, -⟩ := table_of_grants [refused, unlock, steal]
  have hidle : ∀ m ∈ idle, ¬Counts m := by decide
  have hrefused : ¬Counts refused := by decide
  refine ⟨?_, ?_, ?_, hsame _ fun m hm => ?_⟩
  · exact (htable .reset).mpr ⟨.unlock, by decide, unlock, by simp, by decide, rfl⟩
  · exact (htable .reassign).mpr ⟨.steal, by decide, steal, by simp, by decide, rfl⟩
  · exact Bool.eq_false_iff.mpr fun h => absurd ((htable .unreserve).mp h) (by decide)
  · have hnot : m ∉ idle := fun h => hidle m h hm
    have hne : m ≠ refused := by
      rintro rfl
      exact hrefused hm
    simp [hnot, hne, or_comm]

end Permissions

end Lockable
