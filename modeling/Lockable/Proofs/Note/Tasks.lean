import Mathlib.Data.List.Nodup
import Lockable.Note.Editor

/-!
# The tasks of a note editor

A task that is neither cancelled nor at its end is **alive**. What an editor remembers of its tasks
is of two kinds, and both are kept whatever happens to it.

* `Indexed`: the latest task of each name. A task that is alive is the one remembered for its name,
  and what is remembered for a name is the newest task of that name, and not cancelled.
* `Scheduled`: what waits for its turn. A task that has something to do will get a turn, and a task
  that has ended will be forgotten if it is still remembered.

An old task of a name may be cancelled or at its end without having had that turn, while a newer one
is already remembered in its place: neither of the two speaks of what is not remembered.
-/

namespace Lockable.Note

/-- Whether the task has neither been cancelled nor come to its end. -/
def Phase.isAlive : Phase → Bool
  | created => true
  | fetching => true
  | answered _ => true
  | stopping => false
  | done _ => false

/-- Whether the task has something to do at its next turn. -/
def Phase.isReady : Phase → Bool
  | created => true
  | fetching => false
  | answered _ => true
  | stopping => true
  | done _ => false

/-- Whether the job may leave another one behind. -/
def Job.isResume : Job → Bool
  | resume _ => true
  | forget _ => false

theorem Phase.isAlive_iff {p : Phase} : p.isAlive = true ↔ p.isDone = false ∧ p ≠ .stopping := by
  cases p <;> simp [isAlive, isDone]

theorem Phase.isDone_of_isReady {p : Phase} (h : p.isReady = true) : p.isDone = false := by
  cases p <;> first | rfl | cases h

variable {tasks : List Task} {latest : Keyed String Nat} {jobs : List Job} {t t' : Task} {p : Phase}
  {i id : Nat} {name : String}

/-! ### Moving a task on -/

/-- Tasks one of which has moved on. -/
def moved (tasks : List Task) (id : Nat) (p : Phase) : List Task :=
  tasks.modify id fun t => { t with phase := p }

theorem getElem?_moved (tasks : List Task) (id : Nat) (p : Phase) (i : Nat) :
    (moved tasks id p)[i]? =
      if id = i then (tasks[i]?).map fun t => { t with phase := p } else tasks[i]? := by
  rw [moved, List.getElem?_modify]
  split <;> simp

/-- The task that has moved on. -/
theorem getElem?_moved_self (h : tasks[id]? = some t) :
    (moved tasks id p)[id]? = some { t with phase := p } := by
  rw [getElem?_moved, if_pos rfl, h]
  rfl

theorem getElem?_moved_of_ne (h : id ≠ i) : (moved tasks id p)[i]? = tasks[i]? := by
  rw [getElem?_moved, if_neg h]

/-- A task afterwards is one from before, perhaps moved on. -/
theorem exists_of_getElem?_moved (h : (moved tasks id p)[i]? = some t') :
    ∃ t, tasks[i]? = some t ∧ t'.name = t.name ∧
      (id = i ∧ t'.phase = p ∨ id ≠ i ∧ t' = t) := by
  by_cases hi : id = i
  · subst hi
    rw [getElem?_moved, if_pos rfl, Option.map_eq_some_iff] at h
    obtain ⟨t, ht, rfl⟩ := h
    exact ⟨t, ht, rfl, .inl ⟨rfl, rfl⟩⟩
  · rw [getElem?_moved_of_ne hi] at h
    exact ⟨t', h, rfl, .inr ⟨hi, rfl⟩⟩

/-- Only the last move counts. -/
theorem moved_moved (tasks : List Task) (id : Nat) (q p : Phase) :
    moved (moved tasks id q) id p = moved tasks id p := by
  apply List.ext_getElem?
  intro i
  by_cases hi : id = i
  · subst hi
    simp [getElem?_moved, Option.map_map, Function.comp_def]
  · simp [getElem?_moved_of_ne hi]

/-- A task once one more is there: one from before, or the new one. -/
theorem getElem?_concat :
    (tasks ++ [t'])[i]? = some t ↔ tasks[i]? = some t ∨ i = tasks.length ∧ t' = t := by
  grind

/-! ### The course of time -/

/-- Where a task belongs: its name and its container. -/
def Task.place (t : Task) : String × String := (t.name, t.container)

/-- Tasks that have **advanced**, some new ones having been added at these places. A task keeps its
place, and one that is not alive does not come to life again. -/
structure Advanced (tasks tasks' : List Task) (places : List (String × String)) : Prop where
  kept : ∀ (i : Nat) (t : Task), tasks[i]? = some t →
    ∃ t' : Task, tasks'[i]? = some t' ∧ (t.phase.isAlive = false → t'.phase.isAlive = false)
  placed : tasks'.map Task.place = tasks.map Task.place ++ places

namespace Advanced

variable {tasks' tasks'' : List Task} {places places' : List (String × String)}

theorem refl (tasks : List Task) : Advanced tasks tasks [] where
  kept _ t ht := ⟨t, ht, id⟩
  placed := (List.append_nil _).symm

theorem trans (h : Advanced tasks tasks' places) (h' : Advanced tasks' tasks'' places') :
    Advanced tasks tasks'' (places ++ places') where
  kept i t ht := by
    obtain ⟨t', ht', hkept⟩ := h.kept i t ht
    obtain ⟨t'', ht'', hkept'⟩ := h'.kept i t' ht'
    exact ⟨t'', ht'', hkept' ∘ hkept⟩
  placed := by rw [h'.placed, h.placed, List.append_assoc]

theorem moved (ht : tasks[id]? = some t) (halive : p.isAlive = true → t.phase.isAlive = true) :
    Advanced tasks (moved tasks id p) [] where
  kept i s hs := by
    by_cases hi : id = i
    · subst hi
      obtain rfl : t = s := Option.some.inj (ht.symm.trans hs)
      refine ⟨_, getElem?_moved_self ht, fun hdead => ?_⟩
      rw [← Bool.not_eq_true] at hdead ⊢
      exact mt halive hdead
    · exact ⟨s, by rw [getElem?_moved_of_ne hi, hs], fun hdead => hdead⟩
  placed := by
    apply List.ext_getElem?
    intro i
    rw [List.append_nil, List.getElem?_map, List.getElem?_map, getElem?_moved]
    split
    · rw [Option.map_map]
      rfl
    · rfl

theorem concat (tasks : List Task) (t : Task) : Advanced tasks (tasks ++ [t]) [t.place] where
  kept _ s hs := ⟨s, getElem?_concat.mpr (.inl hs), fun hdead => hdead⟩
  placed := List.map_append

/-- A task keeps its name. -/
theorem name_eq (h : Advanced tasks tasks' places) (ht : tasks[i]? = some t)
    (ht' : tasks'[i]? = some t') : t'.name = t.name := by
  have hplace : (tasks'.map Task.place)[i]? = (tasks.map Task.place)[i]? := by
    rw [h.placed, List.getElem?_append_left]
    simpa using (List.getElem?_eq_some_iff.mp ht).1
  rw [List.getElem?_map, List.getElem?_map, ht, ht'] at hplace
  exact congrArg Prod.fst (Option.some.inj hplace)

end Advanced

/-! ### The latest task of each name -/

/-- No task of this name is alive. -/
def Vacant (tasks : List Task) (name : String) : Prop :=
  ∀ (i : Nat) (t : Task), tasks[i]? = some t → t.name = name → t.phase.isAlive = false

/-- What is remembered as the latest tasks are the newest of each name, none of them cancelled, and
all that are alive. -/
structure Indexed (tasks : List Task) (latest : Keyed String Nat) : Prop where
  nodup : (latest.map Prod.fst).Nodup
  current : ∀ name id, Keyed.find? name latest = some id →
    ∃ t, tasks[id]? = some t ∧ t.name = name ∧ t.phase ≠ .stopping
  newest : ∀ name id, Keyed.find? name latest = some id →
    ∀ i t, tasks[i]? = some t → t.name = name → i ≤ id
  entered : ∀ id t, tasks[id]? = some t → t.phase.isAlive = true →
    Keyed.find? t.name latest = some id

namespace Indexed

theorem nil : Indexed [] [] where
  nodup := List.nodup_nil
  current := by simp
  newest := by simp
  entered := by simp

/-- A task may move on, but not to life, and not to be cancelled. -/
theorem moved (h : Indexed tasks latest) (ht : tasks[id]? = some t) (hp : p ≠ .stopping)
    (halive : p.isAlive = true → t.phase.isAlive = true) :
    Indexed (moved tasks id p) latest where
  nodup := h.nodup
  current name i hi := by
    obtain ⟨t, ht, hname, hphase⟩ := h.current name i hi
    by_cases hid : id = i
    · subst hid
      exact ⟨_, getElem?_moved_self ht, hname, hp⟩
    · exact ⟨t, by rw [getElem?_moved_of_ne hid, ht], hname, hphase⟩
  newest name i hi j t ht hname := by
    obtain ⟨t₀, ht₀, hname₀, -⟩ := exists_of_getElem?_moved ht
    exact h.newest name i hi j t₀ ht₀ (hname₀ ▸ hname)
  entered i t' ht' hlive := by
    obtain ⟨t₀, ht₀, hname₀, ⟨rfl, rfl⟩ | ⟨hid, rfl⟩⟩ := exists_of_getElem?_moved ht'
    · obtain rfl : t = t₀ := Option.some.inj (ht.symm.trans ht₀)
      rw [hname₀]
      exact h.entered id t ht (halive hlive)
    · exact h.entered i t' ht₀ hlive

/-- A name may be forgotten that has no task alive. -/
theorem erase (h : Indexed tasks latest) (hvacant : Vacant tasks name) :
    Indexed tasks (Keyed.erase name latest) where
  nodup := Keyed.nodup_erase h.nodup name
  current other id hid := h.current other id (Keyed.find?_erase_eq_some_iff.mp hid).2
  newest other id hid := h.newest other id (Keyed.find?_erase_eq_some_iff.mp hid).2
  entered id t ht hlive := by
    have hne : t.name ≠ name := fun hname => by simp [hvacant id t ht hname] at hlive
    rw [Keyed.find?_erase_of_ne hne]
    exact h.entered id t ht hlive

/-- The task of a name that is remembered may be cancelled if it is forgotten. -/
theorem stop (h : Indexed tasks latest) (hid : Keyed.find? name latest = some id) :
    Indexed (Note.moved tasks id .stopping) (Keyed.erase name latest) where
  nodup := Keyed.nodup_erase h.nodup name
  current other i hi := by
    obtain ⟨hne, hi⟩ := Keyed.find?_erase_eq_some_iff.mp hi
    obtain ⟨t, ht, hname, hphase⟩ := h.current other i hi
    obtain ⟨t₀, ht₀, hname₀, -⟩ := h.current name id hid
    -- what is remembered for another name is another task
    have hother : id ≠ i := by
      rintro rfl
      rw [ht] at ht₀
      cases ht₀
      exact hne (hname.symm.trans hname₀)
    exact ⟨t, by rw [getElem?_moved_of_ne hother, ht], hname, hphase⟩
  newest other i hi j t ht hname := by
    obtain ⟨t₀, ht₀, hname₀, -⟩ := exists_of_getElem?_moved ht
    exact h.newest other i (Keyed.find?_erase_eq_some_iff.mp hi).2 j t₀ ht₀ (hname₀ ▸ hname)
  entered i t ht hlive := by
    obtain ⟨t₀, ht₀, -, ⟨-, hphase⟩ | ⟨hother, rfl⟩⟩ := exists_of_getElem?_moved ht
    · rw [hphase] at hlive
      cases hlive
    · have hi := h.entered i t ht₀ hlive
      have hne : t.name ≠ name := by
        rintro rfl
        rw [hid] at hi
        exact hother (Option.some.inj hi)
      rw [Keyed.find?_erase_of_ne hne, hi]

/-- A task may be added for a name for which none is remembered. -/
theorem start (h : Indexed tasks latest) (hname : Keyed.find? name latest = none)
    (container : String) :
    Indexed (tasks ++ [⟨name, container, .created⟩])
      (Keyed.insert name tasks.length latest) := by
  have hother {other : String} {i : Nat} (hne : other ≠ name)
      (hi : Keyed.find? other (Keyed.insert name tasks.length latest) = some i) :
      Keyed.find? other latest = some i := by
    rwa [Keyed.find?_insert_of_ne hne] at hi
  refine ⟨?_, ?_, ?_, ?_⟩
  · have hnew := Keyed.find?_eq_none_iff.mp hname
    rw [Keyed.insert_of_notMem hnew, List.map_append]
    exact List.nodup_append.mpr ⟨h.nodup, List.nodup_singleton _, by grind⟩
  · intro other i hi
    by_cases hne : other = name
    · subst hne
      rw [Keyed.find?_insert_self] at hi
      exact ⟨_, getElem?_concat.mpr (.inr ⟨(Option.some.inj hi).symm, rfl⟩), rfl,
        by simp⟩
    · obtain ⟨t, ht, htname, hphase⟩ := h.current other i (hother hne hi)
      exact ⟨t, getElem?_concat.mpr (.inl ht), htname, hphase⟩
  · intro other i hi j t ht htname
    by_cases hne : other = name
    · subst hne
      rw [Keyed.find?_insert_self] at hi
      have hj := (List.getElem?_eq_some_iff.mp ht).1
      rw [List.length_append, List.length_singleton] at hj
      have hi := Option.some.inj hi
      omega
    · rcases getElem?_concat.mp ht with ht | ⟨-, rfl⟩
      · exact h.newest other i (hother hne hi) j t ht htname
      · exact absurd htname.symm hne
  · intro i t ht hlive
    rcases getElem?_concat.mp ht with ht | ⟨rfl, rfl⟩
    · have hi := h.entered i t ht hlive
      have hne : t.name ≠ name := by
        rintro rfl
        rw [hname] at hi
        cases hi
      rw [Keyed.find?_insert_of_ne hne, hi]
    · exact Keyed.find?_insert_self name tasks.length latest

/-- A name for which no task is remembered has no task alive. -/
theorem vacant (h : Indexed tasks latest) (hnone : Keyed.find? name latest = none) :
    Vacant tasks name := by
  intro i t ht hname
  rcases hlive : t.phase.isAlive with _ | _
  · rfl
  · have hi := h.entered i t ht hlive
    rw [hname, hnone] at hi
    cases hi

end Indexed

/-! ### What waits -/

/-- What has something to do, or is to be forgotten, waits for its turn; and only what has ended is
to be forgotten. -/
structure Scheduled (tasks : List Task) (latest : Keyed String Nat) (jobs : List Job) : Prop where
  resumed : ∀ id t, tasks[id]? = some t → t.phase.isReady = true → .resume id ∈ jobs
  forgotten : ∀ name id t, Keyed.find? name latest = some id → tasks[id]? = some t →
    t.phase.isDone = true → .forget id ∈ jobs
  ended : ∀ id, .forget id ∈ jobs → ∃ t, tasks[id]? = some t ∧ t.phase.isDone = true

namespace Scheduled

theorem nil : Scheduled [] [] [] where
  resumed := by simp
  forgotten := by simp
  ended := by simp

/-- Less may be remembered. -/
theorem erase (h : Scheduled tasks latest jobs) (name : String) :
    Scheduled tasks (Keyed.erase name latest) jobs where
  resumed := h.resumed
  forgotten other id t hid := h.forgotten other id t (Keyed.find?_erase_eq_some_iff.mp hid).2
  ended := h.ended

/-- A task may move on that has not ended, if it then waits for what it has to do. It need not wait
for what it had to do before. -/
theorem moved {jobs' : List Job} (h : Scheduled tasks latest jobs) (ht : tasks[id]? = some t)
    (hdone : t.phase.isDone = false)
    (hkept : ∀ job ∈ jobs, job ≠ .resume id → job ∈ jobs')
    (hready : p.isReady = true → .resume id ∈ jobs')
    (hforget : p.isDone = true → .forget id ∈ jobs')
    (hnew : ∀ i, .forget i ∈ jobs' → .forget i ∈ jobs ∨ i = id ∧ p.isDone = true) :
    Scheduled (Note.moved tasks id p) latest jobs' where
  resumed i t ht hr := by
    obtain ⟨t₀, ht₀, -, ⟨rfl, rfl⟩ | ⟨hid, rfl⟩⟩ := exists_of_getElem?_moved ht
    · exact hready hr
    · exact hkept _ (h.resumed i t ht₀ hr) fun heq => hid (Job.resume.inj heq).symm
  forgotten name i t hi ht hd := by
    obtain ⟨t₀, ht₀, -, ⟨rfl, rfl⟩ | ⟨-, rfl⟩⟩ := exists_of_getElem?_moved ht
    · exact hforget hd
    · exact hkept _ (h.forgotten name i t hi ht₀ hd) nofun
  ended i hi := by
    rcases hnew i hi with hi | ⟨rfl, hd⟩
    · obtain ⟨t', ht', hd⟩ := h.ended i hi
      -- what was to be forgotten has ended, so it is not the task that moves on
      have hid : id ≠ i := by
        rintro rfl
        obtain rfl : t = t' := Option.some.inj (ht.symm.trans ht')
        rw [hdone] at hd
        cases hd
      exact ⟨t', by rw [getElem?_moved_of_ne hid, ht'], hd⟩
    · exact ⟨_, getElem?_moved_self ht, hd⟩

/-- A turn is over that had nothing to do. -/
theorem spent {job : Job} (h : Scheduled tasks latest (job :: jobs))
    (hresume : ∀ id t, job = .resume id → tasks[id]? = some t → t.phase.isReady = false)
    (hforget : ∀ name id t, job = .forget id → Keyed.find? name latest = some id →
      tasks[id]? = some t → t.phase.isDone = false) :
    Scheduled tasks latest jobs where
  resumed i t ht hr := by
    rcases List.mem_cons.mp (h.resumed i t ht hr) with heq | hi
    · rw [hresume i t heq.symm ht] at hr
      cases hr
    · exact hi
  forgotten name i t hi ht hd := by
    rcases List.mem_cons.mp (h.forgotten name i t hi ht hd) with heq | hi'
    · rw [hforget name i t heq.symm hi ht] at hd
      cases hd
    · exact hi'
  ended i hi := h.ended i (List.mem_cons_of_mem _ hi)

theorem start (h : Scheduled tasks latest jobs) (name container : String) :
    Scheduled (tasks ++ [⟨name, container, .created⟩]) (Keyed.insert name tasks.length latest)
      (jobs ++ [.resume tasks.length]) where
  resumed i t ht hr := by
    rcases getElem?_concat.mp ht with ht | ⟨rfl, rfl⟩
    · exact List.mem_append_left _ (h.resumed i t ht hr)
    · exact List.mem_append_right _ List.mem_cons_self
  forgotten other i t hi ht hd := by
    rcases getElem?_concat.mp ht with hold | ⟨rfl, rfl⟩
    · have hne : other ≠ name := by
        rintro rfl
        rw [Keyed.find?_insert_self] at hi
        have hlt := (List.getElem?_eq_some_iff.mp hold).1
        have heq := Option.some.inj hi
        omega
      rw [Keyed.find?_insert_of_ne hne] at hi
      exact List.mem_append_left _ (h.forgotten other i t hi hold hd)
    · cases hd
  ended i hi := by
    rcases List.mem_append.mp hi with hi | hi
    · obtain ⟨t, ht, hd⟩ := h.ended i hi
      exact ⟨t, getElem?_concat.mpr (.inl ht), hd⟩
    · simp at hi

end Scheduled

end Lockable.Note
