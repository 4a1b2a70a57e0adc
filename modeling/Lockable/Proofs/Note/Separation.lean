import Lockable.Note.Bench
import Lockable.Proofs.Note.Thread

/-!
# Notes of different resources

The notes of several resources are edited with one editor, and as long as no container is used for
two of them they do not get in each other's way. A step that is **addressed** to a name does to the
thread of the name what it does to the editor, and a step that is addressed to another name does
nothing to it. So what can be seen of a name in a run is what can be seen of it where all steps are
left out that are addressed to other names (`Bench.edits_do_not_interfere`).
-/

namespace Lockable.Note

variable {name : String} {mine : String → Bool} {s : Step} {steps : List Step} {index : Int}

/-! ### Steps and what is seen of them -/

/-- The name that a step is addressed to, if it is to one. -/
def Step.name? : Step → Option String
  | edit name _ _ => some name
  | release name _ _ => some name
  | pending name => some name
  | cancel name => some name
  | save name _ => some name
  | cancelAll => none
  | saveFails _ => none

/-- Whether a step is addressed to a name, or to none. -/
def Step.concerns (name : String) (s : Step) : Bool := s.name?.all (· = name)

/-- The name and the container of a request. -/
def Step.place? : Step → Option (String × String)
  | edit name _ container => some (name, container)
  | _ => none

/-- No container is used for two names. -/
def Apart (steps : List Step) : Prop :=
  ∀ p ∈ steps.filterMap Step.place?, ∀ q ∈ steps.filterMap Step.place?, p.2 = q.2 → p.1 = q.1

instance : Decidable (Apart steps) := List.decidableBAll _ _

/-- The containers that are used for a name. -/
def containersOf (name : String) (steps : List Step) : List String :=
  ((steps.filterMap Step.place?).filter (·.1 = name)).map (·.2)

/-- What is shown in containers. -/
def shownIn (containers : List String) (log : List Happening) : List (String × Display) :=
  log.filterMap fun
    | .shown c what => if c ∈ containers then some (c, what) else none
    | _ => none

/-- The scripts that are run for a name. -/
def scriptsOf (name : String) (log : List Happening) : List String :=
  log.filterMap fun
    | .ran n source => if n = name then some source else none
    | _ => none

/-! ### What is asked of a thread -/

/-- A request is on its way just if it is in the thread. -/
theorem Editor.Sound.thread_pending {e : Editor} (h : e.Sound) (name : String)
    (mine : String → Bool) : (e.thread name mine).pending name = e.pending name := by
  rw [Editor.pending, Editor.pending]
  rcases h.running?_cases name mine with ⟨hnone, hnone'⟩ | ⟨id, i, hid, -, hid'⟩
  · rw [hnone, hnone']
  · rw [hid, hid']
    rfl

/-- The fetches for a name are those of its thread, which go by their numbers there. -/
theorem Editor.map_fetchesOf (e : Editor) (name : String) (mine : String → Bool) :
    (e.fetchesOf name).map (rank? name e.tasks) =
      ((e.thread name mine).fetchesOf name).map some := by
  rw [Editor.fetchesOf, Editor.fetchesOf, Editor.thread]
  dsimp only
  induction e.fetches with
  | nil => rfl
  | cons id ids ih =>
    rcases hrank : rank? name e.tasks id with _ | i
    · have hother : (e.tasks[id]?).map Task.name ≠ some name := by
        intro hname
        obtain ⟨t, ht, hname⟩ := Option.map_eq_some_iff.mp hname
        obtain ⟨i, hi⟩ := exists_rank? ht hname
        rw [hrank] at hi
        cases hi
      rw [List.filter_cons_of_neg (by simpa using hother), List.filterMap_cons_none hrank, ih]
    · obtain ⟨t, ht, hname⟩ := exists_of_rank? hrank
      have hown : (e.tasks[id]?).map Task.name = some name := by rw [ht, Option.map_some, hname]
      have hown' : ((ownTasks name e.tasks)[i]?).map Task.name = some name := by
        rw [getElem?_ownTasks hrank, hown]
      rw [List.filter_cons_of_pos (by simpa using hown), List.filterMap_cons_some hrank,
        List.filter_cons_of_pos (by simpa using hown'), List.map_cons, List.map_cons, ih, hrank]

namespace Bench

/-- Of two lists of tasks that correspond, the items at a position correspond. -/
theorem itemAt?_cases {tasks : List Task} {ids items : List Nat}
    (h : ids.map (rank? name tasks) = items.map some) (index : Int) :
    (itemAt? ids index = none ∧ itemAt? items index = none) ∨
      ∃ id i, itemAt? ids index = some id ∧ itemAt? items index = some i ∧
        rank? name tasks id = some i := by
  have hlength : ids.length = items.length := by simpa using congrArg List.length h
  have hitem (k : Nat) : (ids[k]?).map (rank? name tasks) = (items[k]?).map some := by
    rw [← List.getElem?_map, h, List.getElem?_map]
  rw [itemAt?, itemAt?, hlength]
  generalize (if index < 0 then index + (items.length : Int) else index) = index
  by_cases hindex : index < 0
  · rw [if_pos hindex, if_pos hindex]
    exact .inl ⟨rfl, rfl⟩
  · rw [if_neg hindex, if_neg hindex]
    have hk := hitem index.toNat
    rcases hid : ids[index.toNat]? with _ | id <;> rcases hi : items[index.toNat]? with _ | i <;>
      rw [hid, hi] at hk
    · exact .inl ⟨rfl, rfl⟩
    · cases hk
    · cases hk
    · exact .inr ⟨id, i, rfl, rfl, Option.some.inj hk⟩

theorem mem_of_itemAt? {items : List Nat} {id : Nat} (h : itemAt? items index = some id) :
    id ∈ items := by
  rw [itemAt?] at h
  generalize (if index < 0 then index + (items.length : Int) else index) = index at h
  split at h
  · cases h
  · exact List.mem_of_getElem? h

/-- The **thread** of a name as a bench: what of a bench concerns the name. -/
def thread (name : String) (mine : String → Bool) (b : Bench) : Bench where
  editor := b.editor.thread name mine
  saved := b.saved.filter (·.1 = name)
  refusal := b.refusal

/-- A fetch of the name is one of its thread. -/
theorem fetchAt_cases (b : Bench) (name : String) (mine : String → Bool) (index : Int) :
    (∃ cause, b.fetchAt name index = .error cause ∧
        (b.thread name mine).fetchAt name index = .error cause) ∨
      ∃ id i, b.fetchAt name index = .ok id ∧ (b.thread name mine).fetchAt name index = .ok i ∧
        rank? name b.editor.tasks id = some i := by
  have hfetches := b.editor.map_fetchesOf name mine
  rw [fetchAt, fetchAt, thread]
  dsimp only
  rcases hids : b.editor.fetchesOf name with _ | ⟨id, ids⟩ <;>
    rcases hitems : (b.editor.thread name mine).fetchesOf name with _ | ⟨i, items⟩ <;>
    rw [hids, hitems] at hfetches
  · exact .inl ⟨_, rfl, rfl⟩
  · cases hfetches
  · cases hfetches
  · dsimp only
    rcases itemAt?_cases hfetches index with ⟨hnone, hnone'⟩ | ⟨id, i, hid, hi, hrank⟩
    · rw [hnone, hnone']
      exact .inl ⟨_, rfl, rfl⟩
    · rw [hid, hi]
      exact .inr ⟨id, i, rfl, rfl, hrank⟩

/-- A fetch of another name is of another task. -/
theorem rank?_of_fetchAt {b : Bench} {other : String} {id : Nat} (hother : name ≠ other)
    (h : b.fetchAt other index = .ok id) : rank? name b.editor.tasks id = none := by
  have hmem : id ∈ b.editor.fetchesOf other := by
    rw [fetchAt] at h
    split at h
    · cases h
    · split at h
      · next hitem =>
        cases h
        exact mem_of_itemAt? hitem
      · cases h
  obtain ⟨-, hname⟩ := List.mem_filter.mp hmem
  obtain ⟨t, ht, hname⟩ := Option.map_eq_some_iff.mp (of_decide_eq_true hname)
  exact rank?_eq_none ht fun heq => hother (heq.symm.trans hname)

/-! ### One step -/

variable {b b' : Bench}

theorem fit_step (h : b.editor.Fit name mine)
    (hplace : ∀ p ∈ s.place?, mine p.2 = decide (p.1 = name)) :
    (b.step s).1.editor.Fit name mine := by
  cases s with
  | edit other label container => exact h.edit (hplace (other, container) rfl)
  | release other index a =>
    rw [step]
    rcases b.fetchAt other index with cause | id
    · exact h
    · exact h.answer id a
  | pending other => exact h
  | cancel other => exact h.cancel other
  | cancelAll => exact h.cancelAll
  | save other note =>
    rw [step]
    rcases b.refusal with _ | words <;> exact h
  | saveFails words => exact h

/-- **A step that concerns the name** is one of its thread, and is answered by it. -/
theorem step_own (h : b.editor.Fit name mine) (hs : s.concerns name = true)
    (hplace : ∀ p ∈ s.place?, mine p.2 = decide (p.1 = name)) :
    (b.step s).2 = ((b.thread name mine).step s).2 ∧
      (b.step s).1.thread name mine = { ((b.thread name mine).step s).1 with labels := [] } := by
  cases s with
  | edit other label container =>
    obtain rfl : other = name := of_decide_eq_true hs
    have hmine : mine container = true := (hplace (other, container) rfl).trans (by simp)
    refine ⟨rfl, ?_⟩
    simp only [step, thread, h.sound.thread_edit h.ranged hmine]
  | release other index a =>
    obtain rfl : other = name := of_decide_eq_true hs
    rw [step, step]
    rcases b.fetchAt_cases other mine index with ⟨cause, hfault, hfault'⟩ | ⟨id, i, hid, hi, hrank⟩
    · rw [hfault, hfault']
      exact ⟨rfl, rfl⟩
    · obtain ⟨hthread, hintime⟩ := Editor.thread_answer mine hrank a
      rw [hid, hi]
      dsimp only
      rw [hintime]
      refine ⟨rfl, ?_⟩
      simp only [thread, hthread]
  | pending other =>
    obtain rfl : other = name := of_decide_eq_true hs
    refine ⟨?_, rfl⟩
    simp only [step, thread, h.sound.thread_pending]
  | cancel other =>
    obtain rfl : other = name := of_decide_eq_true hs
    obtain ⟨hthread, hfound⟩ := h.sound.thread_cancel other mine
    simp only [step, thread, hthread, hfound, and_self]
  | cancelAll =>
    refine ⟨rfl, ?_⟩
    simp only [step, thread, h.sound.thread_cancelAll]
  | save other note =>
    obtain rfl : other = name := of_decide_eq_true hs
    have hsaved : (b.saved ++ [(other, note)]).filter (·.1 = other) =
        b.saved.filter (·.1 = other) ++ [(other, note)] := by simp
    rcases hrefusal : b.refusal with _ | words
    · simp only [step, thread, hrefusal, hsaved, and_self]
    · simp only [step, thread, hrefusal, and_self]
  | saveFails words => exact ⟨rfl, rfl⟩

/-- **A step that is addressed to another name** does nothing to the thread. -/
theorem step_other (h : b.editor.Fit name mine) (hs : s.concerns name = false)
    (hplace : ∀ p ∈ s.place?, mine p.2 = decide (p.1 = name)) :
    (b.step s).1.thread name mine = b.thread name mine := by
  cases s with
  | edit other label container =>
    have hother : other ≠ name := of_decide_eq_false hs
    have hmine : mine container = false :=
      (hplace (other, container) rfl).trans (decide_eq_false hother)
    simp only [step, thread, h.sound.thread_edit_other h.ranged hother.symm hmine]
  | release other index a =>
    have hother : other ≠ name := of_decide_eq_false hs
    rw [step]
    rcases hid : b.fetchAt other index with cause | id
    · rfl
    · simp only [thread, Editor.thread_answer_other (rank?_of_fetchAt hother.symm hid)]
  | pending other => rfl
  | cancel other =>
    have hother : other ≠ name := of_decide_eq_false hs
    simp only [step, thread, h.sound.thread_cancel_other hother.symm]
  | cancelAll => cases hs
  | save other note =>
    have hother : other ≠ name := of_decide_eq_false hs
    rw [step]
    rcases hrefusal : b.refusal with _ | words
    · simp [thread, hrefusal, hother]
    · rfl
  | saveFails words => cases hs

/-! ### A run -/

/-- The benches and the replies of a run in which the tasks take their turns after each step. -/
def settled (b : Bench) (steps : List Step) : List (Bench × Except Failure Reply) :=
  b.run (steps.map (·, true))

/-- The bench after such a run. -/
def after (b : Bench) (steps : List Step) : Bench := ((b.settled steps).map (·.1)).getLastD b

/-- The replies of such a run to the steps that concern a name. -/
def repliesTo (name : String) (b : Bench) (steps : List Step) : List (Except Failure Reply) :=
  ((steps.zip (b.settled steps)).filter (·.1.concerns name)).map (·.2.2)

/-- The bench after one step and the turns that follow it. -/
def next (b : Bench) (s : Step) : Bench :=
  { (b.step s).1 with editor := (b.step s).1.editor.settle }

theorem settled_cons (b : Bench) (s : Step) (steps : List Step) :
    b.settled (s :: steps) = (b.next s, (b.step s).2) :: (b.next s).settled steps := rfl

theorem after_cons (b : Bench) (s : Step) (steps : List Step) :
    b.after (s :: steps) = (b.next s).after steps := by
  rw [after, settled_cons, List.map_cons, List.getLastD_cons, after]

theorem repliesTo_cons (b : Bench) (steps : List Step) (hs : s.concerns name = true) :
    repliesTo name b (s :: steps) = (b.step s).2 :: repliesTo name (b.next s) steps := by
  simp [repliesTo, settled_cons, hs]

theorem repliesTo_cons_other (b : Bench) (steps : List Step) (hs : s.concerns name = false) :
    repliesTo name b (s :: steps) = repliesTo name (b.next s) steps := by
  simp [repliesTo, settled_cons, hs]

/-- Two benches at rest that are the same to a name. -/
structure Twins (name : String) (mine : String → Bool) (b b' : Bench) : Prop where
  fit : b.editor.Fit name mine
  fit' : b'.editor.Fit name mine
  rests : b.editor.jobs = []
  same : b.thread name mine = b'.thread name mine

/-- The thread of a bench that comes to rest. -/
theorem thread_next (h : b.editor.Fit name mine)
    (hplace : ∀ p ∈ s.place?, mine p.2 = decide (p.1 = name)) :
    (b.next s).thread name mine =
      { (b.step s).1.thread name mine with
        editor := ((b.step s).1.thread name mine).editor.settle } := by
  rw [next, thread]
  dsimp only
  rw [(fit_step h hplace).thread_settle]
  rfl

theorem Twins.next_own (h : Twins name mine b b') (hs : s.concerns name = true)
    (hplace : ∀ p ∈ s.place?, mine p.2 = decide (p.1 = name)) :
    (b.step s).2 = (b'.step s).2 ∧ Twins name mine (b.next s) (b'.next s) := by
  obtain ⟨hreply, hthread⟩ := step_own h.fit hs hplace
  obtain ⟨hreply', hthread'⟩ := step_own h.fit' hs hplace
  refine ⟨by rw [hreply, hreply', h.same], (fit_step h.fit hplace).settle,
    (fit_step h.fit' hplace).settle, Editor.jobs_settle _, ?_⟩
  rw [thread_next h.fit hplace, thread_next h.fit' hplace, hthread, hthread', h.same]

theorem Twins.next_other (h : Twins name mine b b') (hs : s.concerns name = false)
    (hplace : ∀ p ∈ s.place?, mine p.2 = decide (p.1 = name)) :
    Twins name mine (b.next s) b' := by
  -- the thread was at rest and has got nothing to do
  have hjobs : (b.thread name mine).editor.jobs = [] := congrArg (List.filterMap _) h.rests
  have hidle : (b.thread name mine).editor.settle = (b.thread name mine).editor :=
    Editor.turns_of_jobs hjobs _
  refine ⟨(fit_step h.fit hplace).settle, h.fit', Editor.jobs_settle _, ?_⟩
  rw [thread_next h.fit hplace, step_other h.fit hs hplace, hidle, ← h.same]

/-- **Leaving steps out** that are addressed to other names makes no difference to a name. -/
theorem Twins.run (h : Twins name mine b b')
    (hplaces : ∀ p ∈ steps.filterMap Step.place?, mine p.2 = decide (p.1 = name)) :
    repliesTo name b steps = (b'.settled (steps.filter (·.concerns name))).map (·.2) ∧
      Twins name mine (b.after steps) (b'.after (steps.filter (·.concerns name))) := by
  induction steps generalizing b b' with
  | nil => exact ⟨rfl, h⟩
  | cons s steps ih =>
    have hplace : ∀ p ∈ s.place?, mine p.2 = decide (p.1 = name) := fun p hp =>
      hplaces p (List.mem_filterMap.mpr ⟨s, List.mem_cons_self, hp⟩)
    have hrest : ∀ p ∈ steps.filterMap Step.place?, mine p.2 = decide (p.1 = name) := by
      intro p hp
      obtain ⟨s', hs', hp⟩ := List.mem_filterMap.mp hp
      exact hplaces p (List.mem_filterMap.mpr ⟨s', List.mem_cons_of_mem _ hs', hp⟩)
    rcases hs : s.concerns name with _ | _
    · rw [repliesTo_cons_other b steps hs, after_cons, List.filter_cons_of_neg (by simp [hs])]
      exact ih (h.next_other hs hplace) hrest
    · obtain ⟨hreply, hnext⟩ := h.next_own hs hplace
      obtain ⟨hreplies, hend⟩ := ih hnext hrest
      rw [repliesTo_cons b steps hs, after_cons, List.filter_cons_of_pos hs, after_cons,
        settled_cons, List.map_cons, hreply, hreplies]
      exact ⟨rfl, hend⟩

end Bench

/-! ### What is seen of a name -/

/-- Nothing is lost of a log by hearing only what belongs to a name, if one looks only for what is
heard by itself. -/
theorem filterMap_hearFrom {α : Type} {look : Happening → Option α}
    (hlook : ∀ h, hear name mine [h] = [] → look h = none) (on : Bool) (log : List Happening) :
    (hearFrom name mine on log).filterMap look = log.filterMap look := by
  induction log generalizing on with
  | nil => rfl
  | cons h log ih =>
    -- what is left out is nothing that is looked for, and neither is a binding that is kept
    have hskip (hnone : hear name mine [h] = []) : (h :: log).filterMap look = log.filterMap look :=
      List.filterMap_cons_none (hlook h hnone)
    cases h with
    | shown c what =>
      rw [hearFrom]
      split
      · rw [List.filterMap_cons, List.filterMap_cons, ih]
      · next hc => rw [hskip (if_neg hc), ih]
    | fetched n =>
      rw [hearFrom]
      split
      · rw [List.filterMap_cons, List.filterMap_cons, ih]
      · next hn => rw [hskip (if_neg hn), ih]
    | ran n source =>
      rw [hearFrom]
      split
      · rw [List.filterMap_cons, List.filterMap_cons, ih]
      · next hn => rw [hskip (if_neg hn), ih]
    | bound b =>
      rw [hearFrom, hskip rfl]
      split
      · rw [List.filterMap_cons_none (hlook _ rfl), ih]
      · exact ih on

/-- What is shown in the containers of a name is heard of it. -/
theorem shownIn_hear (name : String) (containers : List String) (log : List Happening) :
    shownIn containers (hear name (· ∈ containers) log) = shownIn containers log := by
  refine filterMap_hearFrom (fun h hnone => ?_) false log
  cases h with
  | shown c what =>
    refine if_neg fun hc => ?_
    simp [hear, hearFrom, hc] at hnone
  | _ => rfl

/-- The scripts that are run for a name are heard of it. -/
theorem scriptsOf_hear (name : String) (mine : String → Bool) (log : List Happening) :
    scriptsOf name (hear name mine log) = scriptsOf name log := by
  refine filterMap_hearFrom (fun h hnone => ?_) false log
  cases h with
  | ran n source =>
    refine if_neg fun hn => ?_
    simp [hear, hearFrom, hn] at hnone
  | _ => rfl

namespace Bench

variable {b b' : Bench}

/-- What can be seen of a name is the same of two benches. -/
structure Alike (name : String) (containers : List String) (b b' : Bench) : Prop where
  /-- The tasks of the name, with what has become of each. -/
  tasks : ownTasks name b.editor.tasks = ownTasks name b'.editor.tasks
  /-- What is shown in the containers, in order. -/
  shown : shownIn containers b.editor.log = shownIn containers b'.editor.log
  scripts : scriptsOf name b.editor.log = scriptsOf name b'.editor.log
  /-- All that the tasks of the name do, in order, with the elements that are bound. -/
  heard : hear name (· ∈ containers) b.editor.log = hear name (· ∈ containers) b'.editor.log
  fetches : (b.editor.fetchesOf name).length = (b'.editor.fetchesOf name).length
  pending : b.editor.pending name = b'.editor.pending name
  saved : b.saved.filter (·.1 = name) = b'.saved.filter (·.1 = name)

theorem length_fetchesOf (e : Editor) (name : String) (mine : String → Bool) :
    (e.fetchesOf name).length = ((e.thread name mine).fetchesOf name).length := by
  simpa using congrArg List.length (e.map_fetchesOf name mine)

/-- What can be seen of a name can be seen of its thread. -/
theorem Twins.alike {containers : List String} (h : Twins name (· ∈ containers) b b') :
    Alike name containers b b' := by
  have heditor : b.editor.thread name (· ∈ containers) = b'.editor.thread name (· ∈ containers) :=
    congrArg Bench.editor h.same
  have hlog : hear name (· ∈ containers) b.editor.log = hear name (· ∈ containers) b'.editor.log :=
    congrArg Editor.log heditor
  refine ⟨congrArg Editor.tasks heditor, ?_, ?_, hlog, ?_, ?_, congrArg Bench.saved h.same⟩
  · rw [← shownIn_hear name containers b.editor.log, hlog, shownIn_hear]
  · rw [← scriptsOf_hear name (· ∈ containers) b.editor.log, hlog, scriptsOf_hear]
  · rw [length_fetchesOf b.editor name (· ∈ containers), heditor, ← length_fetchesOf]
  · rw [← h.fit.sound.thread_pending name (· ∈ containers), heditor,
      h.fit'.sound.thread_pending]

/-- Where no container is used for two names, those of a name are for no other. -/
theorem mem_containersOf (hapart : Apart steps) {p : String × String}
    (hp : p ∈ steps.filterMap Step.place?) (name : String) :
    decide (p.2 ∈ containersOf name steps) = decide (p.1 = name) := by
  refine decide_eq_decide.mpr ⟨fun hmem => ?_, fun hname => ?_⟩
  · obtain ⟨q, hq, hcontainer⟩ := List.mem_map.mp hmem
    obtain ⟨hq, hname⟩ := List.mem_filter.mp hq
    rw [hapart p hp q hq hcontainer.symm]
    exact of_decide_eq_true hname
  · exact List.mem_map.mpr ⟨p, List.mem_filter.mpr ⟨hp, decide_eq_true hname⟩, rfl⟩

/-- **Edits of different notes do not interfere.** Whatever is requested, answered, cancelled and
saved for other names, the replies to a name, its tasks, what is shown in its containers and the
scripts that are run for it are the same as if all that had been left out. -/
theorem edits_do_not_interfere (behaviours : List String) (steps : List Step) (name : String)
    (hapart : Apart steps) :
    let b : Bench := { editor := { behaviours } }
    let own := steps.filter (·.concerns name)
    repliesTo name b steps = (b.settled own).map (·.2) ∧
      Alike name (containersOf name steps) (b.after steps) (b.after own) := by
  intro b own
  have hnew : b.editor.Fit name (· ∈ containersOf name steps) := .nil _ _ behaviours
  have htwins : Twins name (· ∈ containersOf name steps) b b := ⟨hnew, hnew, rfl, rfl⟩
  obtain ⟨hreplies, hend⟩ := htwins.run fun p hp => mem_containersOf hapart hp name
  exact ⟨hreplies, hend.alike⟩

/-- Two rows: the form of one fails and is asked for again and cancelled while the other one is
edited. -/
theorem edits_do_not_interfere_two_rows :
    let b : Bench := { editor := { behaviours := ["textarea"] } }
    let steps : List Step := [.edit "printer" "1" "a", .edit "board" "2" "b",
      .release "board" 0 (.failed (.missingMember "board")), .edit "board" "3" "b",
      .release "printer" 0 (.markup "<textarea>old</textarea><script>go()</script>"),
      .cancel "board", .cancelAll, .pending "printer"]
    let own := steps.filter (·.concerns "printer")
    scriptsOf "printer" (b.after steps).editor.log = ["go()"] ∧
      repliesTo "printer" b steps = (b.settled own).map (·.2) ∧
      Alike "printer" ["a"] (b.after steps) (b.after own) :=
  ⟨by decide +kernel, edits_do_not_interfere ["textarea"] _ "printer" (by decide)⟩

end Bench

end Lockable.Note
