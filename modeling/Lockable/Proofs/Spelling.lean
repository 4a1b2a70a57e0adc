import Lockable.Proofs.Permissions
import Lockable.Settings.Schema

/-!
# Several spellings of a permission

A configuration may spell a capability in several ways, and give each spelling another value. What
follows from the mapping as it is written is what **some** spelling grants. The settings keep one
value for each capability, under its proper name: what the **last** spelling says
(`Grants.find?_properNames`). So nothing is granted that was not written, but a grant is lost where
a later spelling takes it back and nobody administers, and then the order of the keys counts.
-/

namespace Lockable

namespace Keyed

/-- Setting a key that is there changes no key. -/
theorem map_fst_insert_of_mem {κ α : Type} [DecidableEq κ] {key : κ} {entries : List (κ × α)}
    (h : key ∈ entries.map Prod.fst) (value : α) :
    (insert key value entries).map Prod.fst = entries.map Prod.fst := by
  induction entries with
  | nil => exact absurd h List.not_mem_nil
  | cons e rest ih =>
    obtain ⟨k, v⟩ := e
    rw [insert]
    split
    · rfl
    · next hk =>
      rw [List.map_cons, List.map_cons, ih ((List.mem_cons.mp h).resolve_left (Ne.symm hk))]

end Keyed

namespace Capability

/-- The proper name of a capability spells it. -/
@[simp]
theorem read?_name (c : Capability) : read? (.text c.name) = some c := by
  cases c <;> decide

theorem name_inj {c d : Capability} (h : c.name = d.name) : c = d := by
  have hread := ofName?_name c
  rw [h, ofName?_name] at hread
  exact (Option.some.inj hread).symm

end Capability

/-! ### Spellings -/

namespace Grants

variable {grants grants' done out : List (String × Bool)} {place : List String} {c : Capability}

/-- What the last spelling of a capability says. -/
def last? (c : Capability) (grants : List (String × Bool)) : Option Bool :=
  grants.reverse.findSome? fun g => if Capability.read? (.text g.1) = some c then some g.2 else none

theorem last?_cons (g : String × Bool) (rest : List (String × Bool)) :
    last? c (g :: rest) = (last? c rest).or
      (if Capability.read? (.text g.1) = some c then some g.2 else none) := by
  rw [last?, List.reverse_cons, List.findSome?_append, List.findSome?_singleton]
  rfl

/-- What the last spelling says, some spelling says. -/
theorem exists_of_last? {granted : Bool} (h : last? c grants = some granted) :
    ∃ g ∈ grants, Capability.read? (.text g.1) = some c ∧ g.2 = granted := by
  obtain ⟨g, hg, hsays⟩ := List.exists_of_findSome?_eq_some h
  split at hsays
  · next hspells => exact ⟨g, List.mem_reverse.mp hg, hspells, Option.some.inj hsays⟩
  · cases hsays

/-- A capability that is spelled has a last spelling. -/
theorem exists_last? {g : String × Bool} (hg : g ∈ grants)
    (hspells : Capability.read? (.text g.1) = some c) :
    ∃ granted, last? c grants = some granted := by
  rw [← Option.isSome_iff_exists, last?, List.findSome?_isSome_iff]
  exact ⟨g, List.mem_reverse.mpr hg, by rw [if_pos hspells]; rfl⟩

/-- Some spelling of the capability grants it. -/
def Granted (grants : List (String × Bool)) (c : Capability) : Prop :=
  ∃ g ∈ grants, Capability.read? (.text g.1) = some c ∧ g.2 = true

theorem given_iff_granted :
    Given (grants.map fun (k, v) => (k, .bool v)) c ↔ Granted grants c := by
  simp only [Given, List.mem_map, exists_exists_and_eq_and]
  rfl

/-! ### Proper names -/

/-- The capabilities are under their proper names, each once. -/
structure Proper (grants : List (String × Bool)) : Prop where
  named : ∀ key ∈ grants.map Prod.fst, ∃ c : Capability, key = c.name
  nodup : (grants.map Prod.fst).Nodup

namespace Proper

theorem nil : Proper [] := ⟨fun _ h => absurd h List.not_mem_nil, List.nodup_nil⟩

theorem insert (h : Proper grants) (c : Capability) (granted : Bool) :
    Proper (Keyed.insert c.name granted grants) := by
  by_cases hmem : c.name ∈ grants.map Prod.fst
  · exact ⟨Keyed.map_fst_insert_of_mem hmem granted ▸ h.named,
      Keyed.map_fst_insert_of_mem hmem granted ▸ h.nodup⟩
  · rw [Keyed.insert_of_notMem hmem]
    refine ⟨fun key hkey => ?_, ?_⟩
    · rw [List.map_append, List.mem_append] at hkey
      rcases hkey with hkey | hkey
      · exact h.named key hkey
      · exact ⟨c, List.mem_singleton.mp hkey⟩
    · rw [List.map_append]
      refine List.nodup_append.mpr
        ⟨h.nodup, List.pairwise_singleton .., fun key hkey other hother => ?_⟩
      rw [List.mem_singleton.mp hother]
      rintro rfl
      exact hmem hkey

/-- Under proper names a capability has one value. -/
theorem granted_iff (h : Proper grants) :
    Granted grants c ↔ Keyed.find? c.name grants = some true := by
  rw [Keyed.find?_eq_some_iff h.nodup]
  constructor
  · rintro ⟨⟨key, granted⟩, hmem, hspells, rfl⟩
    obtain ⟨d, rfl⟩ := h.named key (List.mem_map_of_mem hmem)
    rw [Capability.read?_name] at hspells
    exact Option.some.inj hspells ▸ hmem
  · exact fun hmem => ⟨_, hmem, Capability.read?_name c, rfl⟩

end Proper

theorem Proper.of_properNames (hdone : Proper done)
    (h : Checked.properNames place done grants = .ok out) : Proper out := by
  induction grants generalizing done with
  | nil =>
    cases h
    exact hdone
  | cons g rest ih =>
    rw [Checked.properNames] at h
    split at h
    · next c _ => exact ih (hdone.insert c g.2) h
    · cases h

/-- **The last spelling counts.** -/
theorem find?_properNames (h : Checked.properNames place done grants = .ok out) :
    Keyed.find? c.name out = (last? c grants).or (Keyed.find? c.name done) := by
  induction grants generalizing done with
  | nil =>
    cases h
    rfl
  | cons g rest ih =>
    rw [Checked.properNames] at h
    split at h
    · next d hspells =>
      rw [ih h, last?_cons, Option.or_assoc, hspells]
      by_cases hd : d = c
      · subst hd
        rw [Keyed.find?_insert_self, if_pos rfl, Option.some_or]
      · rw [Keyed.find?_insert_of_ne (mt Capability.name_inj (Ne.symm hd)),
          if_neg (mt Option.some.inj hd), Option.none_or]
    · cases h

/-- What is granted under proper names is what the last spelling grants. -/
theorem granted_properNames_iff (h : Checked.properNames place [] grants = .ok out) :
    Granted out c ↔ last? c grants = some true := by
  rw [(Proper.nil.of_properNames h).granted_iff, find?_properNames h, Keyed.find?_nil,
    Option.or_none]

/-- No capability is spelled with both values. -/
def Consistent (grants : List (String × Bool)) : Prop :=
  ∀ c, ∀ g ∈ grants, ∀ g' ∈ grants, Capability.read? (.text g.1) = some c →
    Capability.read? (.text g'.1) = some c → g.2 = g'.2

theorem Consistent.last?_of_granted (h : Consistent grants) (hc : Granted grants c) :
    last? c grants = some true := by
  obtain ⟨g, hg, hspells, hgranted⟩ := hc
  obtain ⟨granted, hlast⟩ := exists_last? hg hspells
  obtain ⟨g', hg', hspells', rfl⟩ := exists_of_last? hlast
  rw [hlast, h c g' hg' g hg hspells' hspells, hgranted]

end Grants

/-! ### What follows from the spellings -/

namespace Permissions

variable {members members' : List (String × Json)} {grants grants' : List (String × Bool)}
  {p q : Permissions} {c : Capability}

open Grants (Given Granted Consistent last?)

theorem eq_of_le_of_le (hpq : p ≤ q) (hqp : q ≤ p) : p = q := by
  obtain ⟨allows⟩ := p
  obtain ⟨allows'⟩ := q
  congr
  funext c
  exact Bool.eq_iff_iff.mpr ⟨hpq c, hqp c⟩

/-- A capability that can be granted is allowed if it was granted, or administering was. -/
theorem allows_ofMembers_iff (hc : c ∈ grantable) :
    (ofMembers members).allows c = true ↔ Given members c ∨ Given members .administer := by
  rw [← Grants.has_collect_ofTexts_iff, ← Grants.has_collect_ofTexts_iff]
  simp only [grantable, List.mem_cons, List.not_mem_nil, or_false] at hc
  rcases hc with rfl | rfl | rfl | rfl <;> simp [ofMembers, ofMapping, ofGrants]

/-- **Fewer grants come to the same** exactly if each of those left out is covered by
administering. -/
theorem ofMembers_eq_iff (h : ∀ c ∈ grantable, Given members c → Given members' c) :
    ofMembers members = ofMembers members' ↔
      ∀ c ∈ grantable, Given members' c → Given members c ∨ Given members .administer := by
  constructor
  · intro heq c hc hgiven
    rw [← allows_ofMembers_iff hc, heq, allows_ofMembers_iff hc]
    exact .inl hgiven
  · intro hcovered
    refine eq_of_le_of_le (ofMembers_mono h) ?_
    by_cases hadminister : Given members .administer
    · have hallows := (allows_ofMembers_iff (by decide)).mpr (.inl hadminister)
      exact fun c _ => allows_of_administer c hallows
    · exact ofMembers_mono fun c hc hgiven =>
        (hcovered c hc hgiven).resolve_right hadminister

/-- The order of the keys does not matter to what follows from a mapping. -/
theorem ofSettings_perm (h : grants.Perm grants') : ofSettings grants = ofSettings grants' := by
  have hgiven (c : Capability) :
      Given (grants.map fun (k, v) => (k, .bool v)) c ↔
        Given (grants'.map fun (k, v) => (k, .bool v)) c := by
    rw [Grants.given_iff_granted, Grants.given_iff_granted, Granted, Granted]
    simp only [h.mem_iff]
  exact eq_of_le_of_le (ofMembers_mono fun c _ => (hgiven c).mp)
    (ofMembers_mono fun c _ => (hgiven c).mpr)

variable {place : List String} {out : List (String × Bool)}

/-- What is granted under proper names was written. -/
theorem given_of_properNames (h : Checked.properNames place [] grants = .ok out)
    (hc : Given (out.map fun (k, v) => (k, .bool v)) c) :
    Given (grants.map fun (k, v) => (k, .bool v)) c := by
  rw [Grants.given_iff_granted, Grants.granted_properNames_iff h] at hc
  exact Grants.given_iff_granted.mpr (Grants.exists_of_last? hc)

theorem ofSettings_properNames_eq_iff (h : Checked.properNames place [] grants = .ok out) :
    ofSettings out = ofSettings grants ↔ ∀ c ∈ grantable, Granted grants c →
      last? c grants = some true ∨ last? .administer grants = some true := by
  rw [ofSettings, ofSettings, ofMembers_eq_iff fun c _ => given_of_properNames h]
  simp only [Grants.given_iff_granted, Grants.granted_properNames_iff h]

end Permissions

/-! ### The settings of a session -/

namespace SessionSettings

variable {place : List String} {entries : List (Document × Document)}
  {grants : List (String × Bool)} {session : SessionSettings}

open Permissions (grantable ofSettings)
open Grants (Granted Consistent last?)

/-- A mapping of permission names to booleans as it is written. -/
def written (grants : List (String × Bool)) : Document :=
  .mapping (grants.map fun g => (.text g.1, .bool g.2))

theorem grants_written (place : List String) (grants : List (String × Bool)) :
    Checked.grants place (grants.map fun g => (.text g.1, .bool g.2)) = .ok grants := by
  induction grants with
  | nil => rfl
  | cons g rest ih =>
    rw [List.map_cons, Checked.grants, ih]
    rfl

/-- What is accepted is kept by proper names. -/
theorem properNames_of_ofEntries
    (hwritten : Document.find? "permissions" entries = some (written grants))
    (haccepted : ofEntries place entries = .ok session) :
    Checked.properNames (place ++ ["permissions"]) [] grants = .ok session.permissions := by
  unfold ofEntries at haccepted
  dsimp only at haccepted
  split at haccepted
  · next user permissions huser hpermissions =>
    cases haccepted
    rw [Checked.field, hwritten] at hpermissions
    dsimp only [written, Checked.permissionMapping] at hpermissions
    rwa [grants_written] at hpermissions
  · cases haccepted

/-- **Normalising keeps the grants of last spellings.** Let the permissions of a session be written
as a mapping of names to booleans, in any spelling, and be accepted. What follows from the mapping
as it is written does not depend on the order of its keys. Normalised, the mapping never gives more,
and it gives **the same exactly if** each capability that is granted under some spelling is granted
under its last one, or administering is. Where no capability is spelled with both values that is so
for every order of the keys. -/
theorem normalising_keeps_last_grants
    (hwritten : Document.find? "permissions" entries = some (written grants))
    (haccepted : ofEntries place entries = .ok session) :
    ∃ normalised asWritten : Permissions,
      Permissions.derive (Settings.permissionMapping session.permissions) = .ok normalised ∧
      Permissions.derive (Settings.permissionMapping grants) = .ok asWritten ∧
      normalised ≤ asWritten ∧
      (normalised = asWritten ↔ ∀ c ∈ grantable,
        (∃ g ∈ grants, Capability.read? (.text g.1) = some c ∧ g.2 = true) →
          last? c grants = some true ∨ last? .administer grants = some true) ∧
      ∀ place' entries' grants' session', grants'.Perm grants →
        Document.find? "permissions" entries' = some (written grants') →
        ofEntries place' entries' = .ok session' →
          Permissions.derive (Settings.permissionMapping grants') = .ok asWritten ∧
          (Consistent grants →
            Permissions.derive (Settings.permissionMapping session'.permissions) =
              .ok asWritten) := by
  have hnames := properNames_of_ofEntries hwritten haccepted
  refine ⟨ofSettings session.permissions, ofSettings grants, Permissions.derive_permissionMapping _,
    Permissions.derive_permissionMapping _, ?_, Permissions.ofSettings_properNames_eq_iff hnames,
    fun place' entries' grants' session' hperm hwritten' haccepted' => ?_⟩
  · exact Permissions.ofMembers_mono fun c _ => Permissions.given_of_properNames hnames
  · have hsame := Permissions.ofSettings_perm hperm
    have hnames' := properNames_of_ofEntries hwritten' haccepted'
    refine ⟨hsame ▸ Permissions.derive_permissionMapping _, fun hconsistent => ?_⟩
    have hconsistent : Consistent grants' := fun c g hg g' hg' =>
      hconsistent c g (hperm.mem_iff.mp hg) g' (hperm.mem_iff.mp hg')
    rw [Permissions.derive_permissionMapping, ← hsame,
      (Permissions.ofSettings_properNames_eq_iff hnames').mpr fun c _ hc =>
        .inl (hconsistent.last?_of_granted hc)]

/-- A grant that a later spelling takes back is lost. -/
theorem normalising_keeps_last_grants_unlock :
    let grants := [("UNLOCK", true), ("Steal", false), ("steal", true), (" unlock", false)]
    ∃ session normalised asWritten,
      ofEntries ["session"] [(.text "permissions", written grants)] = .ok session ∧
      Permissions.derive (Settings.permissionMapping session.permissions) = .ok normalised ∧
      Permissions.derive (Settings.permissionMapping grants) = .ok asWritten ∧
      normalised ≤ asWritten ∧ normalised ≠ asWritten := by
  intro grants
  let session : SessionSettings := { permissions := [("UNLOCK", false), ("STEAL", true)] }
  have hgrants : Document.find? "permissions" [(.text "permissions", written grants)] =
      some (written grants) := rfl
  have haccepted : ofEntries ["session"] [(.text "permissions", written grants)] =
      .ok session := rfl
  obtain ⟨normalised, asWritten, hnormalised, hwritten, hle, hsame, -⟩ :=
    normalising_keeps_last_grants hgrants haccepted
  refine ⟨session, normalised, asWritten, haccepted, hnormalised, hwritten, hle, fun heq => ?_⟩
  have hkept := hsame.mp heq .unlock (by decide) ⟨("UNLOCK", true), by decide, by decide, rfl⟩
  revert hkept
  decide

/-- Two orders of the same keys, of which one gives less than what is written. -/
theorem normalising_depends_on_order :
    let unlocks (grants : List (String × Bool)) :=
      (Permissions.derive (Settings.permissionMapping grants)).map (·.allows .unlock)
    let grants := [("UNLOCK", true), ("unlock", false)]
    ∃ session session',
      ofEntries ["session"] [(.text "permissions", written grants)] = .ok session ∧
      ofEntries ["session"] [(.text "permissions", written grants.reverse)] = .ok session' ∧
      unlocks session.permissions = .ok false ∧ unlocks grants = .ok true ∧
      unlocks session'.permissions = .ok true ∧ unlocks grants.reverse = .ok true :=
  ⟨{ permissions := [("UNLOCK", false)] }, { permissions := [("UNLOCK", true)] },
    rfl, rfl, rfl, rfl, rfl, rfl⟩

end SessionSettings

end Lockable
