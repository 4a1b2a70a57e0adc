import Lockable.Proofs.Note.Operations

/-!
# The thread of a name

What an editor has to do with one name is an editor of its own, the **thread** of the name
(`Editor.thread`): the tasks of the name, numbered anew, what waits and is remembered of these, and
what of the log belongs to them.

What is done for the name is done to its thread, and what is done for another name does nothing to
it, be it a request, a cancellation, an answer or a turn. So the thread takes its turns as if it
were alone, and an editor at rest has a thread at rest (`Editor.thread_settle`).
-/

namespace Lockable.Note

variable {tasks : List Task} {t t' : Task} {name other : String} {id id' i : Nat} {p : Phase}

/-! ### Numbering -/

/-- The tasks of a name. -/
def ownTasks (name : String) (tasks : List Task) : List Task := tasks.filter (·.name = name)

/-- The number of a task among those of a name, if it is one of them. -/
def rank? (name : String) : List Task → Nat → Option Nat
  | [], _ => none
  | t :: _, 0 => if t.name = name then some 0 else none
  | t :: rest, id + 1 => (rank? name rest id).map fun i => if t.name = name then i + 1 else i

/-- A task of the name is found under its number. -/
theorem getElem?_ownTasks (h : rank? name tasks id = some i) :
    (ownTasks name tasks)[i]? = tasks[id]? := by
  induction tasks generalizing id i with
  | nil => cases h
  | cons t tasks ih =>
    cases id with
    | zero =>
      rw [rank?] at h
      split at h
      · next hname =>
        cases h
        simp [ownTasks, hname]
      · cases h
    | succ id =>
      obtain ⟨j, hj, rfl⟩ := Option.map_eq_some_iff.mp h
      have hrest := ih hj
      rw [ownTasks] at hrest ⊢
      split
      · next hname => simpa [hname] using hrest
      · next hname => simpa [hname] using hrest

/-- What has a number is a task of the name. -/
theorem exists_of_rank? (h : rank? name tasks id = some i) :
    ∃ t, tasks[id]? = some t ∧ t.name = name := by
  induction tasks generalizing id i with
  | nil => cases h
  | cons t tasks ih =>
    cases id with
    | zero =>
      rw [rank?] at h
      split at h
      · next hname => exact ⟨t, rfl, hname⟩
      · cases h
    | succ id =>
      obtain ⟨j, hj, -⟩ := Option.map_eq_some_iff.mp h
      exact ih hj

/-- A task of the name has a number. -/
theorem exists_rank? (h : tasks[id]? = some t) (hname : t.name = name) :
    ∃ i, rank? name tasks id = some i := by
  induction tasks generalizing id with
  | nil => cases h
  | cons t' tasks ih =>
    cases id with
    | zero =>
      cases h
      exact ⟨0, if_pos hname⟩
    | succ id =>
      obtain ⟨i, hi⟩ := ih h
      exact ⟨_, Option.map_eq_some_iff.mpr ⟨i, hi, rfl⟩⟩

theorem rank?_eq_none (h : tasks[id]? = some t) (hname : t.name ≠ name) :
    rank? name tasks id = none := by
  rcases hrank : rank? name tasks id with _ | i
  · rfl
  · obtain ⟨t', ht', hname'⟩ := exists_of_rank? hrank
    cases h.symm.trans ht'
    exact absurd hname' hname

/-- No two tasks have the same number. -/
theorem rank?_inj (h : rank? name tasks id = some i) (h' : rank? name tasks id' = some i) :
    id = id' := by
  induction tasks generalizing id id' i with
  | nil => cases h
  | cons t tasks ih =>
    by_cases hname : t.name = name
    · cases id <;> cases id' <;> simp [rank?, hname] at h h'
      · rfl
      · omega
      · omega
      · obtain ⟨j, hj, rfl⟩ := h
        obtain ⟨j', hj', heq⟩ := h'
        obtain rfl : j' = j := by omega
        rw [ih hj hj']
    · cases id <;> cases id' <;> simp [rank?, hname] at h h'
      rw [ih h h']

/-- Moving a task on renumbers none. -/
theorem rank?_moved (tasks : List Task) (id : Nat) (p : Phase) :
    rank? name (moved tasks id p) = rank? name tasks := by
  funext j
  induction tasks generalizing id j with
  | nil => cases id <;> rfl
  | cons t tasks ih =>
    cases id with
    | zero => cases j <;> rfl
    | succ id =>
      cases j with
      | zero => rfl
      | succ j => exact congrArg _ (ih id j)

/-- Moving on a task of the name is moving it on among these. -/
theorem ownTasks_moved (h : rank? name tasks id = some i) (p : Phase) :
    ownTasks name (moved tasks id p) = moved (ownTasks name tasks) i p := by
  induction tasks generalizing id i with
  | nil => cases h
  | cons t tasks ih =>
    cases id with
    | zero =>
      rw [rank?] at h
      split at h
      · next hname =>
        cases h
        simp [ownTasks, moved, hname]
      · cases h
    | succ id =>
      obtain ⟨j, hj, rfl⟩ := Option.map_eq_some_iff.mp h
      have hrest := ih hj
      rw [ownTasks, ownTasks, moved, moved] at hrest
      rw [ownTasks, ownTasks, moved, moved, List.modify_succ_cons]
      split
      · next hname => simp [hname, hrest]
      · next hname => simp [hname, hrest]

/-- Moving on another task leaves these alone. -/
theorem ownTasks_moved_of_none (h : rank? name tasks id = none) (p : Phase) :
    ownTasks name (moved tasks id p) = ownTasks name tasks := by
  induction tasks generalizing id with
  | nil => cases id <;> rfl
  | cons t tasks ih =>
    cases id with
    | zero =>
      rw [rank?] at h
      split at h
      · cases h
      · next hname => simp [ownTasks, moved, hname]
    | succ id =>
      have hrest := ih (Option.map_eq_none_iff.mp h)
      rw [ownTasks, ownTasks, moved] at hrest
      rw [ownTasks, ownTasks, moved, List.modify_succ_cons, List.filter_cons, List.filter_cons,
        hrest]

/-- A new task renumbers none. -/
theorem rank?_concat_of_lt (h : id < tasks.length) (t : Task) :
    rank? name (tasks ++ [t]) id = rank? name tasks id := by
  induction tasks generalizing id with
  | nil => cases h
  | cons t' tasks ih =>
    cases id with
    | zero => rfl
    | succ id => exact congrArg _ (ih (Nat.lt_of_succ_lt_succ h))

/-- A new task of the name gets the next number. -/
theorem rank?_concat_length (tasks : List Task) (t : Task) :
    rank? name (tasks ++ [t]) tasks.length =
      if t.name = name then some (ownTasks name tasks).length else none := by
  induction tasks with
  | nil => rfl
  | cons t' tasks ih =>
    rw [List.cons_append, List.length_cons, rank?, ih, ownTasks, ownTasks, List.filter_cons]
    by_cases hnew : t.name = name <;> by_cases hname : t'.name = name <;> simp [hnew, hname]

/-! ### What is heard -/

/-- What belongs to a name of what happened: what is shown in its containers, and what is bound
there after that; its fetches and its scripts. `on` says whether the last container is one of its.
-/
def hearFrom (name : String) (mine : String → Bool) : Bool → List Happening → List Happening
  | _, [] => []
  | _, .shown c what :: rest =>
    if mine c then .shown c what :: hearFrom name mine true rest else hearFrom name mine false rest
  | on, .fetched n :: rest =>
    if n = name then .fetched n :: hearFrom name mine on rest else hearFrom name mine on rest
  | on, .ran n source :: rest =>
    if n = name then .ran n source :: hearFrom name mine on rest else hearFrom name mine on rest
  | on, .bound b :: rest =>
    if on then .bound b :: hearFrom name mine on rest else hearFrom name mine on rest

/-- What belongs to a name of a log. -/
def hear (name : String) (mine : String → Bool) (log : List Happening) : List Happening :=
  hearFrom name mine false log

/-- The happening is one of a task. -/
inductive OfTask (t : Task) : Happening → Prop
  | shown (what : Display) : OfTask t (.shown t.container what)
  | fetched : OfTask t (.fetched t.name)
  | ran (source : String) : OfTask t (.ran t.name source)
  | bound (b : Binding) : OfTask t (.bound b)

/-- What happens in one turn: nothing is bound unless something was shown before. -/
inductive Opens : List Happening → Prop
  | nothing : Opens []
  | shown (c : String) (what : Display) (rest : List Happening) : Opens (.shown c what :: rest)
  | fetched (n : String) : Opens [.fetched n]

variable {mine : String → Bool} {log deeds : List Happening}

/-- What is heard of two parts of a log is heard of the whole. -/
theorem hearFrom_append (hopens : Opens deeds) (on : Bool) :
    hearFrom name mine on (log ++ deeds) =
      hearFrom name mine on log ++ hear name mine deeds := by
  induction log generalizing on with
  -- the second part does not begin with a binding, so it is heard the same whatever `on` is
  | nil => cases hopens <;> rfl
  | cons h log ih =>
    cases h <;> simp only [List.cons_append, hearFrom] <;> split <;>
      simp only [ih, List.cons_append]

theorem hear_append (hopens : Opens deeds) :
    hear name mine (log ++ deeds) = hear name mine log ++ hear name mine deeds :=
  hearFrom_append hopens false

/-- All that a task of the name does is heard. -/
theorem hear_own (hopens : Opens deeds) (hdeeds : ∀ h ∈ deeds, OfTask t h) (hname : t.name = name)
    (hmine : mine t.container = true) : hear name mine deeds = deeds := by
  have hon (deeds : List Happening) (hdeeds : ∀ h ∈ deeds, OfTask t h) :
      hearFrom name mine true deeds = deeds := by
    induction deeds with
    | nil => rfl
    | cons h deeds ih =>
      obtain ⟨hh, hrest⟩ := List.forall_mem_cons.mp hdeeds
      cases hh <;> simp [hearFrom, hname, hmine, ih hrest]
  rw [hear]
  cases hopens with
  | nothing => rfl
  | shown c what rest =>
    have hshown := hon _ hdeeds
    rwa [hearFrom] at hshown ⊢
  | fetched n =>
    cases hdeeds _ List.mem_cons_self
    simp [hearFrom, hname]

/-- Nothing that a task of another name does is heard. -/
theorem hear_other (hdeeds : ∀ h ∈ deeds, OfTask t h) (hname : t.name ≠ name)
    (hmine : mine t.container = false) : hear name mine deeds = [] := by
  rw [hear]
  induction deeds with
  | nil => rfl
  | cons h deeds ih =>
    obtain ⟨hh, hrest⟩ := List.forall_mem_cons.mp hdeeds
    cases hh <;> simp [hearFrom, hname, hmine, ih hrest]

/-- What a task does with an answer is its own, and begins with what it shows. -/
theorem digest_own (behaviours : List String) (t : Task) (a : Answer) :
    Opens (Editor.digest behaviours t a).1 ∧
      ∀ h ∈ (Editor.digest behaviours t a).1, OfTask t h := by
  have hnothing : Opens [] ∧ ∀ h ∈ ([] : List Happening), OfTask t h := ⟨.nothing, nofun⟩
  cases a with
  | failed cause => exact hnothing
  | markup text =>
    rw [Editor.digest]
    rcases Form.parse text with cause | form
    · exact hnothing
    · have hbound : ∀ h ∈ form.scripts.map (Happening.ran t.name) ++
          (form.bind behaviours).1.map Happening.bound, OfTask t h := by
        intro h hh
        rcases List.mem_append.mp hh with hh | hh
        · obtain ⟨source, -, rfl⟩ := List.mem_map.mp hh
          exact .ran source
        · obtain ⟨b, -, rfl⟩ := List.mem_map.mp hh
          exact .bound b
      dsimp only
      rcases (form.bind behaviours).2 with _ | cause
      · refine ⟨.shown _ _ _, fun h hh => ?_⟩
        rcases List.mem_append.mp hh with hh | hh
        · rcases List.mem_cons.mp hh with rfl | hh
          · exact .shown _
          · exact hbound h hh
        · rw [List.mem_singleton.mp hh]
          exact .shown _
      · exact ⟨.shown _ _ _, List.forall_mem_cons.mpr ⟨.shown _, hbound⟩⟩

/-- The task that a job is for. -/
def Job.task : Job → Nat
  | resume id => id
  | forget id => id

/-- A job for a task of a name, which goes by its number among these. -/
def Job.rank? (name : String) (tasks : List Task) : Job → Option Job
  | resume id => (Note.rank? name tasks id).map resume
  | forget id => (Note.rank? name tasks id).map forget

namespace Editor

/-- The **thread** of a name: what of an editor concerns the name, as an editor of its own. -/
def thread (name : String) (mine : String → Bool) (e : Editor) : Editor where
  behaviours := e.behaviours
  tasks := ownTasks name e.tasks
  latest := (((Keyed.find? name e.latest).bind (rank? name e.tasks)).map fun i => (name, i)).toList
  fetches := e.fetches.filterMap (rank? name e.tasks)
  jobs := e.jobs.filterMap (Job.rank? name e.tasks)
  log := hear name mine e.log

variable {e e' : Editor} {job : Job}

/-! ### One thing done -/

theorem tasks_move (e : Editor) (id : Nat) (p : Phase) :
    (e.move id p).tasks = moved e.tasks id p := rfl

theorem rank?_resume (h : rank? name tasks id = some i) :
    (Job.resume id).rank? name tasks = some (.resume i) := by
  rw [Job.rank?, h]
  rfl

theorem rank?_forget (h : rank? name tasks id = some i) :
    (Job.forget id).rank? name tasks = some (.forget i) := by
  rw [Job.rank?, h]
  rfl

theorem jobRank?_of_none (job : Job) (h : rank? name tasks job.task = none) :
    job.rank? name tasks = none := by
  cases job <;> exact Option.map_eq_none_iff.mpr h

theorem jobRank?_moved (tasks : List Task) (id : Nat) (p : Phase) :
    Job.rank? name (moved tasks id p) = Job.rank? name tasks := by
  funext job
  cases job <;> simp only [Job.rank?, rank?_moved]

theorem thread_move (h : rank? name e.tasks id = some i) (p : Phase) :
    (e.move id p).thread name mine = (e.thread name mine).move i p := by
  simp only [thread, tasks_move, rank?_moved, jobRank?_moved, ownTasks_moved h]
  rfl

theorem thread_move_of_none (h : rank? name e.tasks id = none) (p : Phase) :
    (e.move id p).thread name mine = e.thread name mine := by
  simp only [thread, tasks_move, rank?_moved, jobRank?_moved, ownTasks_moved_of_none h]
  rfl

/-- A task of the name moves on and then waits just as in its thread. -/
theorem thread_move_wait {j : Job} (h : rank? name e.tasks id = some i) (p : Phase)
    (hjob : job.rank? name e.tasks = some j) :
    ((e.move id p).wait job).thread name mine = ((e.thread name mine).move i p).wait j := by
  have hmoved : job.rank? name (e.move id p).tasks = some j := by
    rw [tasks_move, jobRank?_moved, hjob]
  rw [← thread_move h]
  simp [thread, wait, hmoved]

theorem thread_move_wait_of_none (h : rank? name e.tasks id = none) (p : Phase)
    (hjob : job.task = id) :
    ((e.move id p).wait job).thread name mine = e.thread name mine := by
  have hnone : job.rank? name (e.move id p).tasks = none := by
    rw [tasks_move, jobRank?_moved]
    exact jobRank?_of_none job (hjob ▸ h)
  rw [← thread_move_of_none h p]
  simp [thread, wait, hnone]

theorem thread_record (hopens : Opens deeds) (hdeeds : ∀ h ∈ deeds, OfTask t h)
    (hname : t.name = name) (hmine : mine t.container = true) :
    (e.record deeds).thread name mine = (e.thread name mine).record deeds := by
  simp [thread, record, hear_append hopens, hear_own hopens hdeeds hname hmine]

theorem thread_record_other (hopens : Opens deeds) (hdeeds : ∀ h ∈ deeds, OfTask t h)
    (hname : t.name ≠ name) (hmine : mine t.container = false) :
    (e.record deeds).thread name mine = e.thread name mine := by
  simp [thread, record, hear_append hopens, hear_other hdeeds hname hmine]

/-! ### Cancelling -/

theorem thread_stop (h : rank? name e.tasks id = some i) :
    (e.stop id).thread name mine = (e.thread name mine).stop i := by
  have hlookup : (e.thread name mine).tasks[i]? = e.tasks[id]? := getElem?_ownTasks h
  rw [stop, stop, hlookup]
  rcases (e.tasks[id]?).map Task.phase with _ | _ | _ | _ | _ | _
  · rfl
  · exact thread_move h _
  · exact thread_move_wait h _ (rank?_resume h)
  · exact thread_move h _
  · rfl
  · rfl

theorem thread_stop_of_none (h : rank? name e.tasks id = none) :
    (e.stop id).thread name mine = e.thread name mine := by
  rw [stop]
  rcases (e.tasks[id]?).map Task.phase with _ | _ | _ | _ | _ | _
  · rfl
  · exact thread_move_of_none h _
  · exact thread_move_wait_of_none h _ rfl
  · exact thread_move_of_none h _
  · rfl
  · rfl

/-- What is remembered for a name is its own task. -/
theorem exists_rank?_of_indexed (mine : String → Bool) (h : Indexed e.tasks e.latest)
    (hid : Keyed.find? name e.latest = some id) :
    ∃ i, rank? name e.tasks id = some i ∧ (e.thread name mine).latest = [(name, i)] := by
  obtain ⟨t, ht, hname, -⟩ := h.current name id hid
  obtain ⟨i, hi⟩ := Note.exists_rank? ht hname
  exact ⟨i, hi, by rw [thread, hid, Option.bind_some, hi]; rfl⟩

theorem latest_thread_of_none (h : Keyed.find? name e.latest = none) :
    (e.thread name mine).latest = [] := by
  rw [thread, h]
  rfl

/-- The task of the name that is running runs in its thread. -/
theorem Sound.running?_cases (h : Sound e) (name : String) (mine : String → Bool) :
    (e.running? name = none ∧ (e.thread name mine).running? name = none) ∨
      ∃ id i, e.running? name = some id ∧ rank? name e.tasks id = some i ∧
        (e.thread name mine).running? name = some i := by
  rcases hfind : Keyed.find? name e.latest with _ | id
  · refine .inl ⟨?_, ?_⟩
    · rw [running?, hfind]
    · rw [running?, latest_thread_of_none hfind]
      rfl
  · obtain ⟨i, hi, hlatest⟩ := exists_rank?_of_indexed mine h.indexed hfind
    have hlookup : (e.thread name mine).tasks[i]? = e.tasks[id]? := getElem?_ownTasks hi
    have hfind' : Keyed.find? name (e.thread name mine).latest = some i := by
      rw [hlatest, Keyed.find?, if_pos rfl]
    rw [running?, running?, hfind, hfind']
    dsimp only
    rw [hlookup]
    rcases e.tasks[id]? with _ | t
    · exact .inl ⟨rfl, rfl⟩
    · dsimp only
      rcases t.phase.isDone with _ | _
      · exact .inr ⟨id, i, rfl, hi, rfl⟩
      · exact .inl ⟨rfl, rfl⟩

/-- Forgetting a name forgets all that its thread remembers. -/
theorem thread_erase (e : Editor) (name : String) (mine : String → Bool) :
    ({ e with latest := Keyed.erase name e.latest } : Editor).thread name mine =
      { e.thread name mine with latest := Keyed.erase name (e.thread name mine).latest } := by
  have hnone : Keyed.erase name (e.thread name mine).latest = [] := by
    rw [thread]
    rcases (Keyed.find? name e.latest).bind (rank? name e.tasks) with _ | i
    · rfl
    · simp [Keyed.erase]
  rw [hnone, thread]
  simp [thread]

/-- Forgetting another name does not concern it. -/
theorem thread_erase_other (h : name ≠ other) :
    ({ e with latest := Keyed.erase other e.latest } : Editor).thread name mine =
      e.thread name mine := by
  simp [thread, Keyed.find?_erase_of_ne h]

/-- **Cancelling the name** is cancelling it in its thread. -/
theorem Sound.thread_cancel (h : Sound e) (name : String) (mine : String → Bool) :
    (e.cancel name).1.thread name mine = ((e.thread name mine).cancel name).1 ∧
      (e.cancel name).2 = ((e.thread name mine).cancel name).2 := by
  rw [Editor.cancel, Editor.cancel]
  rcases h.running?_cases name mine with ⟨hnone, hnone'⟩ | ⟨id, i, hid, hi, hid'⟩
  · rw [hnone, hnone']
    exact ⟨thread_erase e name mine, rfl⟩
  · rw [hid, hid']
    dsimp only
    rw [← thread_erase]
    exact ⟨thread_stop hi, rfl⟩

/-- **Cancelling another name** does not concern it. -/
theorem Sound.thread_cancel_other (h : Sound e) (hother : name ≠ other) :
    (e.cancel other).1.thread name mine = e.thread name mine := by
  rw [Editor.cancel]
  rcases hid : e.running? other with _ | id
  · exact thread_erase_other hother
  · obtain ⟨t, ht, hname, -⟩ := h.running?_eq_some_iff.mp hid
    have hnone : rank? name e.tasks id = none :=
      rank?_eq_none ht fun heq => hother (heq.symm.trans hname)
    exact (thread_stop_of_none (e := { e with latest := Keyed.erase other e.latest }) hnone).trans
      (thread_erase_other hother)

/-- Of names that are cancelled one after another only the name itself concerns its thread. -/
theorem Sound.thread_foldl_cancel (h : Sound e) {names : List String} (hnodup : names.Nodup) :
    (names.foldl (fun e other => (e.cancel other).1) e).thread name mine =
      if name ∈ names then ((e.thread name mine).cancel name).1 else e.thread name mine := by
  induction names generalizing e with
  | nil => rfl
  | cons other names ih =>
    -- no name comes twice, so the thread is cancelled at its own name and never again
    obtain ⟨hnew, hrest⟩ := List.nodup_cons.mp hnodup
    rw [List.foldl_cons, ih (h.cancel other) hrest]
    by_cases hother : name = other
    · subst hother
      rw [if_neg hnew, if_pos List.mem_cons_self, (h.thread_cancel name mine).1]
    · rw [h.thread_cancel_other hother]
      simp [hother]

/-- **Cancelling all** is cancelling all in its thread. -/
theorem Sound.thread_cancelAll (h : Sound e) (name : String) (mine : String → Bool) :
    e.cancelAll.thread name mine = (e.thread name mine).cancelAll := by
  rw [Editor.cancelAll, Editor.cancelAll, h.thread_foldl_cancel h.indexed.nodup]
  rcases hfind : Keyed.find? name e.latest with _ | id
  · rw [latest_thread_of_none hfind, if_neg (Keyed.find?_eq_none_iff.mp hfind)]
    rfl
  · obtain ⟨i, -, hlatest⟩ := exists_rank?_of_indexed mine h.indexed hfind
    rw [hlatest, if_pos (List.mem_map.mpr ⟨_, Keyed.mem_of_find? hfind, rfl⟩)]
    rfl

/-! ### Requests and answers -/

/-- Nothing waits, was fetched or is to be forgotten for a task that is not there. -/
structure Ranged (e : Editor) : Prop where
  fetched : ∀ id ∈ e.fetches, id < e.tasks.length
  waiting : ∀ job ∈ e.jobs, job.task < e.tasks.length

namespace Ranged

variable (h : Ranged e) (t : Task)

include h

/-- A new task does not concern the fetches that were made. -/
theorem fetches_concat : e.fetches.filterMap (rank? name (e.tasks ++ [t])) =
    e.fetches.filterMap (rank? name e.tasks) :=
  List.filterMap_congr fun id hid => rank?_concat_of_lt (h.fetched id hid) t

/-- Nor does it concern what waits. -/
theorem jobs_concat : e.jobs.filterMap (Job.rank? name (e.tasks ++ [t])) =
    e.jobs.filterMap (Job.rank? name e.tasks) := by
  refine List.filterMap_congr fun job hjob => ?_
  have hlt := h.waiting job hjob
  cases job with
  | resume id => exact congrArg (Option.map Job.resume) (rank?_concat_of_lt hlt t)
  | forget id => exact congrArg (Option.map Job.forget) (rank?_concat_of_lt hlt t)

end Ranged

/-- Makes a task for a name, which waits for its turn. -/
def start (e : Editor) (name container : String) : Editor :=
  ({ e with
    tasks := e.tasks ++ [⟨name, container, .created⟩]
    latest := Keyed.insert name e.tasks.length e.latest } : Editor).wait (.resume e.tasks.length)

theorem edit_eq (e : Editor) (name container : String) :
    e.edit name container =
      ((e.cancel name).1.record [.shown container .loading]).start name container := rfl

/-- A new task of a name of which none is remembered is one of its thread. -/
theorem thread_start (mine : String → Bool) (h : Ranged e)
    (hnone : Keyed.find? name e.latest = none) (container : String) :
    (e.start name container).thread name mine = (e.thread name mine).start name container := by
  have hnew : rank? name (e.tasks ++ [⟨name, container, .created⟩]) e.tasks.length =
      some (ownTasks name e.tasks).length := by
    rw [rank?_concat_length, if_pos rfl]
  have hown : ownTasks name (e.tasks ++ [⟨name, container, .created⟩]) =
      ownTasks name e.tasks ++ [⟨name, container, .created⟩] := by
    simp [ownTasks]
  have hjob : [Job.resume e.tasks.length].filterMap
      (Job.rank? name (e.tasks ++ [⟨name, container, .created⟩])) =
        [.resume (ownTasks name e.tasks).length] :=
    List.filterMap_cons_some (rank?_resume hnew)
  simp only [thread, start, wait, h.fetches_concat, h.jobs_concat, List.filterMap_append, hown,
    hnone, Keyed.find?_insert_self, Option.bind_some, Option.bind_none, hnew, hjob]
  rfl

/-- A new task of another name does not concern the thread. -/
theorem thread_start_other (mine : String → Bool) (hsound : Sound e) (h : Ranged e)
    (hother : name ≠ other) (container : String) :
    (e.start other container).thread name mine = e.thread name mine := by
  have hnew : rank? name (e.tasks ++ [⟨other, container, .created⟩]) e.tasks.length = none := by
    rw [rank?_concat_length, if_neg (Ne.symm hother)]
  have hown : ownTasks name (e.tasks ++ [⟨other, container, .created⟩]) =
      ownTasks name e.tasks := by
    simp [ownTasks, Ne.symm hother]
  have hjob : [Job.resume e.tasks.length].filterMap
      (Job.rank? name (e.tasks ++ [⟨other, container, .created⟩])) = [] :=
    List.filterMap_cons_none (jobRank?_of_none (.resume _) hnew)
  have hlatest : (Keyed.find? name e.latest).bind
        (rank? name (e.tasks ++ [⟨other, container, .created⟩])) =
      (Keyed.find? name e.latest).bind (rank? name e.tasks) := by
    rcases hid : Keyed.find? name e.latest with _ | id
    · rfl
    · obtain ⟨t, ht, -⟩ := hsound.indexed.current name id hid
      exact rank?_concat_of_lt (List.getElem?_eq_some_iff.mp ht).1 _
  simp only [thread, start, wait, h.fetches_concat, h.jobs_concat, List.filterMap_append, hown,
    Keyed.find?_insert_of_ne hother, hlatest, hjob, List.append_nil]

namespace Ranged

variable (h : Ranged e)

include h

theorem move (id : Nat) (p : Phase) : Ranged (e.move id p) := by
  have hlength : (e.move id p).tasks.length = e.tasks.length := List.length_modify _ _ _
  exact ⟨fun i hi => hlength ▸ h.fetched i hi, fun job hjob => hlength ▸ h.waiting job hjob⟩

theorem wait (hjob : job.task < e.tasks.length) : Ranged (e.wait job) :=
  ⟨h.fetched, List.forall_mem_append.mpr ⟨h.waiting, List.forall_mem_singleton.mpr hjob⟩⟩

/-- A task that is there may move on and then wait. -/
theorem move_wait (ht : e.tasks[id]? = some t) (p : Phase) (hjob : job.task = id) :
    Ranged ((e.move id p).wait job) := by
  refine (h.move id p).wait ?_
  have hlength : (e.move id p).tasks.length = e.tasks.length := List.length_modify _ _ _
  rw [hlength, hjob]
  exact (List.getElem?_eq_some_iff.mp ht).1

theorem stop (id : Nat) : Ranged (e.stop id) := by
  rw [Editor.stop]
  rcases ht : e.tasks[id]? with _ | t
  · exact h
  · rw [Option.map_some]
    rcases t.phase with _ | _ | _ | _ | _
    · exact h.move id _
    · exact h.move_wait ht _ rfl
    · exact h.move id _
    · exact h
    · exact h

theorem cancel (name : String) : Ranged (e.cancel name).1 := by
  have hwithout : Ranged { e with latest := Keyed.erase name e.latest } := ⟨h.fetched, h.waiting⟩
  rw [Editor.cancel]
  split
  · exact hwithout.stop _
  · exact hwithout

theorem edit (name container : String) : Ranged (e.edit name container) := by
  have hcancelled := h.cancel name
  have hlength : (e.edit name container).tasks.length = (e.cancel name).1.tasks.length + 1 :=
    List.length_append
  refine ⟨fun id hid => ?_, fun job hjob => ?_⟩
  · rw [hlength]
    exact Nat.lt_succ_of_lt (hcancelled.fetched id hid)
  · rw [hlength]
    rcases List.mem_append.mp hjob with hjob | hjob
    · exact Nat.lt_succ_of_lt (hcancelled.waiting job hjob)
    · rw [List.mem_singleton.mp hjob]
      exact Nat.lt_succ_self _

theorem answer (id : Nat) (a : Answer) : Ranged (e.answer id a).1 := by
  rw [Editor.answer]
  split
  · next hphase =>
    obtain ⟨t, ht, -⟩ := Option.map_eq_some_iff.mp hphase
    exact h.move_wait ht _ rfl
  · exact h

theorem resume (react : Reaction) (id : Nat) : Ranged (e.resumeWith react none id) := by
  rw [resumeWith]
  rcases ht : e.tasks[id]? with _ | t
  · exact h
  dsimp only
  rcases t.phase with _ | _ | a | _ | _
  · have hmoved := h.move id .fetching
    refine ⟨List.forall_mem_append.mpr ⟨hmoved.fetched, List.forall_mem_singleton.mpr ?_⟩,
      hmoved.waiting⟩
    exact Nat.lt_of_lt_of_eq (List.getElem?_eq_some_iff.mp ht).1 (List.length_modify _ _ _).symm
  · exact h
  · exact move_wait (e := e.record _) ⟨h.fetched, h.waiting⟩ ht _ rfl
  · exact h.move_wait ht _ rfl
  · exact h

theorem turn : Ranged e.turn := by
  rw [Editor.turn, turnWith]
  rcases hjobs : e.jobs with _ | ⟨job, rest⟩
  · exact h
  have hrest : Ranged { e with jobs := rest } :=
    ⟨h.fetched, fun job hjob => h.waiting job (hjobs ▸ List.mem_cons_of_mem _ hjob)⟩
  cases job with
  | resume id => exact hrest.resume _ id
  | forget id =>
    dsimp only [Editor.forget]
    split
    · exact hrest
    · split
      · exact ⟨hrest.fetched, hrest.waiting⟩
      · exact hrest

end Ranged

/-- **A request for the name** is one in its thread. -/
theorem Sound.thread_edit (hsound : Sound e) (h : Ranged e) {container : String}
    (hmine : mine container = true) :
    (e.edit name container).thread name mine = (e.thread name mine).edit name container := by
  have hranged := h.cancel name
  have hloading : ∀ h ∈ [Happening.shown container .loading],
      OfTask ⟨name, container, .created⟩ h := List.forall_mem_singleton.mpr (.shown _)
  have hstart := thread_start (e := (e.cancel name).1.record [.shown container .loading]) mine
    ⟨hranged.fetched, hranged.waiting⟩ (find?_latest_cancel e name) container
  rw [edit_eq, edit_eq, hstart, thread_record (.shown _ _ _) hloading rfl hmine,
    (hsound.thread_cancel name mine).1]

/-- **A request for another name** does not concern it. -/
theorem Sound.thread_edit_other (hsound : Sound e) (h : Ranged e) {container : String}
    (hother : name ≠ other) (hmine : mine container = false) :
    (e.edit other container).thread name mine = e.thread name mine := by
  have hranged := h.cancel other
  have hcancelled := hsound.cancel other
  have hloading : ∀ h ∈ [Happening.shown container .loading],
      OfTask ⟨other, container, .created⟩ h := List.forall_mem_singleton.mpr (.shown _)
  have hstart := thread_start_other (e := (e.cancel other).1.record [.shown container .loading])
    mine ⟨hcancelled.indexed, hcancelled.scheduled⟩ ⟨hranged.fetched, hranged.waiting⟩
    hother container
  rw [edit_eq, hstart, thread_record_other (.shown _ _ _) hloading (Ne.symm hother) hmine,
    hsound.thread_cancel_other hother]

/-- **An answer for a task of the name** is one in its thread. -/
theorem thread_answer (mine : String → Bool) (h : rank? name e.tasks id = some i) (a : Answer) :
    (e.answer id a).1.thread name mine = ((e.thread name mine).answer i a).1 ∧
      (e.answer id a).2 = ((e.thread name mine).answer i a).2 := by
  have hlookup : (e.thread name mine).tasks[i]? = e.tasks[id]? := getElem?_ownTasks h
  rw [Editor.answer, Editor.answer, hlookup]
  split
  · exact ⟨thread_move_wait h _ (rank?_resume h), rfl⟩
  · exact ⟨rfl, rfl⟩

/-- **An answer for a task of another name** does not concern it. -/
theorem thread_answer_other (h : rank? name e.tasks id = none) (a : Answer) :
    (e.answer id a).1.thread name mine = e.thread name mine := by
  rw [Editor.answer]
  split
  · exact thread_move_wait_of_none h _ rfl
  · rfl

/-! ### Turns -/

/-- The containers of the name are those of its tasks, and of no others. -/
def Owns (name : String) (mine : String → Bool) (e : Editor) : Prop :=
  ∀ t ∈ e.tasks, mine t.container = decide (t.name = name)

theorem thread_finish (h : rank? name e.tasks id = some i) (outcome : Outcome) :
    (e.finish id outcome).thread name mine = (e.thread name mine).finish i outcome :=
  thread_move_wait h _ (rank?_forget h)

theorem thread_finish_of_none (h : rank? name e.tasks id = none) (outcome : Outcome) :
    (e.finish id outcome).thread name mine = e.thread name mine :=
  thread_move_wait_of_none h _ rfl

/-- **A turn of a task of the name** is one in its thread. -/
theorem thread_resume (h : rank? name e.tasks id = some i) (howns : e.Owns name mine)
    (behaviours : List String) :
    (e.resumeWith (digest behaviours) none id).thread name mine =
      (e.thread name mine).resumeWith (digest behaviours) none i := by
  have hlookup : (e.thread name mine).tasks[i]? = e.tasks[id]? := getElem?_ownTasks h
  obtain ⟨t, ht, hname⟩ := exists_of_rank? h
  have hmine : mine t.container = true := by
    rw [howns t (List.mem_of_getElem? ht), hname]
    exact decide_eq_true rfl
  rw [resumeWith, resumeWith, hlookup, ht]
  dsimp only
  rcases t.phase with _ | _ | a | _ | outcome
  · have hask : ({ e.move id .fetching with fetches := e.fetches ++ [id] } : Editor).thread name
        mine = { (e.thread name mine).move i .fetching with
          fetches := (e.thread name mine).fetches ++ [i] } := by
      have hfetch : [id].filterMap (rank? name e.tasks) = [i] := List.filterMap_cons_some h
      rw [← thread_move h]
      simp only [thread, tasks_move, rank?_moved, List.filterMap_append, hfetch]
    dsimp only
    rw [thread_record (.fetched _) (List.forall_mem_singleton.mpr .fetched) hname hmine, hask]
  · rfl
  · obtain ⟨hopens, hdeeds⟩ := digest_own behaviours t a
    dsimp only [conclude]
    rw [thread_finish (e := e.record _) h, thread_record hopens hdeeds hname hmine]
  · exact thread_finish h _
  · rfl

/-- **A turn of another task** does not concern it. -/
theorem thread_resume_other (h : rank? name e.tasks id = none) (howns : e.Owns name mine)
    (behaviours : List String) :
    (e.resumeWith (digest behaviours) none id).thread name mine = e.thread name mine := by
  rw [resumeWith]
  rcases ht : e.tasks[id]? with _ | t
  · rfl
  have hname : t.name ≠ name := by
    intro hname
    obtain ⟨i, hi⟩ := Note.exists_rank? ht hname
    rw [h] at hi
    cases hi
  have hmine : mine t.container = false := by
    rw [howns t (List.mem_of_getElem? ht)]
    exact decide_eq_false hname
  dsimp only
  rcases t.phase with _ | _ | a | _ | outcome
  · have hask : ({ e.move id .fetching with fetches := e.fetches ++ [id] } : Editor).thread name
        mine = e.thread name mine := by
      have hfetch : [id].filterMap (rank? name e.tasks) = [] := List.filterMap_cons_none h
      rw [← thread_move_of_none h .fetching]
      simp only [thread, tasks_move, rank?_moved, List.filterMap_append, hfetch, List.append_nil]
      rfl
    dsimp only
    rw [thread_record_other (.fetched _) (List.forall_mem_singleton.mpr .fetched) hname hmine, hask]
  · rfl
  · obtain ⟨hopens, hdeeds⟩ := digest_own behaviours t a
    dsimp only [conclude]
    rw [thread_finish_of_none (e := e.record _) h, thread_record_other hopens hdeeds hname hmine]
  · exact thread_finish_of_none h _
  · rfl

/-- **Forgetting a task of the name** is forgetting it in its thread. -/
theorem thread_forget_of_indexed (mine : String → Bool) (hindexed : Indexed e.tasks e.latest)
    (h : rank? name e.tasks id = some i) :
    (e.forget id).thread name mine = (e.thread name mine).forget i := by
  have hlookup : (e.thread name mine).tasks[i]? = e.tasks[id]? := getElem?_ownTasks h
  obtain ⟨t, ht, hname⟩ := exists_of_rank? h
  have hsame : Keyed.find? name (e.thread name mine).latest = some i ↔
      Keyed.find? name e.latest = some id := by
    rcases hfind : Keyed.find? name e.latest with _ | id'
    · rw [latest_thread_of_none hfind]
      exact iff_of_false nofun nofun
    · obtain ⟨i', hi', hlatest⟩ := exists_rank?_of_indexed mine hindexed hfind
      rw [hlatest, Keyed.find?, if_pos rfl, Option.some.injEq, Option.some.injEq]
      constructor
      · rintro rfl
        exact rank?_inj hi' h
      · rintro rfl
        exact Option.some.inj (hi'.symm.trans h)
  rw [Editor.forget, Editor.forget, hlookup, ht]
  dsimp only
  rw [hname]
  split
  · next hid =>
    rw [if_pos (hsame.mpr hid)]
    exact thread_erase e name mine
  · next hid => rw [if_neg (mt hsame.mp hid)]

/-- **Forgetting another task** does not concern it. -/
theorem thread_forget_other (h : rank? name e.tasks id = none) :
    (e.forget id).thread name mine = e.thread name mine := by
  rw [Editor.forget]
  rcases ht : e.tasks[id]? with _ | t
  · rfl
  have hname : name ≠ t.name := by
    intro hname
    obtain ⟨i, hi⟩ := Note.exists_rank? ht hname.symm
    rw [h] at hi
    cases hi
  dsimp only
  split
  · exact thread_erase_other hname
  · rfl

/-- **A turn** is one of the thread, or it does not concern it. -/
theorem Sound.thread_turn (hsound : Sound e) (howns : e.Owns name mine) :
    e.turn.thread name mine = (e.thread name mine).turn ∨
      e.turn.thread name mine = e.thread name mine := by
  rcases hjobs : e.jobs with _ | ⟨job, rest⟩
  · refine .inr ?_
    rw [turn, turnWith, hjobs]
  have hskip (hnone : job.rank? name e.tasks = none) :
      ({ e with jobs := rest } : Editor).thread name mine = e.thread name mine := by
    simp only [thread, hjobs, List.filterMap_cons_none hnone]
  have hhead {j : Job} (hj : job.rank? name e.tasks = some j) :
      (e.thread name mine).jobs = j :: rest.filterMap (Job.rank? name e.tasks) := by
    simp only [thread, hjobs, List.filterMap_cons_some hj]
  cases job with
  | resume id =>
    have hturn : e.turn =
        ({ e with jobs := rest } : Editor).resumeWith (digest e.behaviours) none id := by
      rw [turn, turnWith, hjobs]
    rcases hrank : rank? name e.tasks id with _ | i
    · refine .inr ?_
      rw [hturn, thread_resume_other (e := { e with jobs := rest }) hrank howns,
        hskip (jobRank?_of_none (.resume id) hrank)]
    · refine .inl ?_
      rw [hturn, thread_resume (e := { e with jobs := rest }) hrank howns, turn, turnWith,
        hhead (rank?_resume hrank)]
      rfl
  | forget id =>
    have hturn : e.turn = ({ e with jobs := rest } : Editor).forget id := by
      rw [turn, turnWith, hjobs]
    rcases hrank : rank? name e.tasks id with _ | i
    · refine .inr ?_
      rw [hturn, thread_forget_other (e := { e with jobs := rest }) hrank,
        hskip (jobRank?_of_none (.forget id) hrank)]
    · refine .inl ?_
      have hforget :=
        thread_forget_of_indexed (e := { e with jobs := rest }) mine hsound.indexed hrank
      rw [hturn, hforget, turn, turnWith, hhead (rank?_forget hrank)]
      rfl

/-! ### Coming to rest -/

/-- What is kept of an editor whose threads are looked at. -/
structure Fit (name : String) (mine : String → Bool) (e : Editor) : Prop where
  sound : Sound e
  ranged : Ranged e
  owns : Owns name mine e

/-- Only new tasks can have new containers. -/
theorem Owns.advanced (h : Owns name mine e) {places : List (String × String)}
    (hadvanced : Advanced e.tasks e'.tasks places)
    (hplaces : ∀ p ∈ places, mine p.2 = decide (p.1 = name)) : Owns name mine e' := by
  intro t ht
  have hplace : t.place ∈ e.tasks.map Task.place ++ places :=
    hadvanced.placed ▸ List.mem_map_of_mem ht
  rcases List.mem_append.mp hplace with hold | hnew
  · obtain ⟨t₀, ht₀, hsame⟩ := List.mem_map.mp hold
    have howned := h t₀ ht₀
    obtain ⟨hname, hcontainer⟩ := Prod.mk.inj hsame
    rwa [hname, hcontainer] at howned
  · exact hplaces t.place hnew

theorem Fit.nil (name : String) (mine : String → Bool) (behaviours : List String) :
    Fit name mine { behaviours } :=
  ⟨.nil behaviours, ⟨nofun, nofun⟩, nofun⟩

theorem Fit.edit (h : Fit name mine e) {container : String}
    (hmine : mine container = decide (other = name)) : Fit name mine (e.edit other container) := by
  have hadvanced : Advanced e.tasks (e.edit other container).tasks ([] ++ [(other, container)]) :=
    (h.sound.cancelled other).advanced.trans (.concat _ _)
  exact ⟨h.sound.edit other container, h.ranged.edit other container,
    h.owns.advanced hadvanced (List.forall_mem_singleton.mpr hmine)⟩

theorem Fit.cancel (h : Fit name mine e) (other : String) : Fit name mine (e.cancel other).1 :=
  ⟨h.sound.cancel other, h.ranged.cancel other,
    h.owns.advanced (h.sound.cancelled other).advanced nofun⟩

theorem Fit.cancelAll (h : Fit name mine e) : Fit name mine e.cancelAll :=
  cancelAll_preserves h fun _ other h => h.cancel other

theorem Fit.answer (h : Fit name mine e) (id : Nat) (a : Answer) :
    Fit name mine (e.answer id a).1 :=
  ⟨h.sound.answer id a, h.ranged.answer id a, h.owns.advanced (advanced_answer e id a) nofun⟩

theorem Fit.turn (h : Fit name mine e) : Fit name mine e.turn := by
  have hturned : Turned e e.turn := turned_turnWith e (digest e.behaviours) none
  exact ⟨hturned.sound h.sound, h.ranged.turn, h.owns.advanced hturned.advanced nofun⟩

theorem Fit.turns (h : Fit name mine e) (n : Nat) : Fit name mine (turns n e) := by
  induction n generalizing e with
  | zero => exact h
  | succ n ih => exact ih h.turn

/-- Turns of an editor are turns of its thread, if fewer. -/
theorem Fit.exists_turns (h : Fit name mine e) (n : Nat) :
    ∃ k, (Editor.turns n e).thread name mine = Editor.turns k (e.thread name mine) := by
  induction n generalizing e with
  | zero => exact ⟨0, rfl⟩
  | succ n ih =>
    obtain ⟨k, hk⟩ := ih h.turn
    rcases h.sound.thread_turn h.owns with hturn | hskip
    · exact ⟨k + 1, by rw [Editor.turns, hk, hturn, Editor.turns]⟩
    · exact ⟨k, by rw [Editor.turns, hk, hskip]⟩

theorem turns_of_jobs (h : e.jobs = []) (n : Nat) : turns n e = e := by
  induction n with
  | zero => rfl
  | succ n ih =>
    have hturn : e.turn = e := by rw [turn, turnWith, h]
    rw [turns, hturn, ih]

theorem turns_add (n k : Nat) (e : Editor) : turns (n + k) e = turns k (turns n e) := by
  induction n generalizing e with
  | zero => rw [Nat.zero_add, turns]
  | succ n ih => rw [Nat.succ_add, turns, turns, ih]

/-- An editor that has come to rest stays as it is, however many turns it has taken. -/
theorem turns_eq_turns {n k : Nat} (hn : (turns n e).jobs = []) (hk : (turns k e).jobs = []) :
    turns n e = turns k e := by
  rcases Nat.le_total n k with hle | hle
  · rw [← Nat.add_sub_cancel' hle, turns_add, turns_of_jobs hn]
  · rw [← Nat.add_sub_cancel' hle, turns_add, turns_of_jobs hk]

/-- **An editor at rest has its threads at rest**, each as if it had been alone. -/
theorem Fit.thread_settle (h : Fit name mine e) :
    e.settle.thread name mine = (e.thread name mine).settle := by
  obtain ⟨k, hk⟩ := h.exists_turns (2 * e.jobs.length)
  -- the thread has come to rest after `k` turns, and more of them make no difference
  have hrests : (Editor.turns k (e.thread name mine)).jobs = [] := by
    have hjobs : e.settle.jobs = [] := jobs_settle e
    rw [← hk]
    exact congrArg (List.filterMap _) hjobs
  exact hk.trans (turns_eq_turns hrests (jobs_settle (e.thread name mine)))

theorem Fit.settle (h : Fit name mine e) : Fit name mine e.settle := h.turns _

end Editor

end Lockable.Note
