import Lockable.Proofs.Note.Tasks

/-!
# What a note editor can do

A request is cancelled in one of two ways (`Editor.Cancelled`), and a turn does one of six things
(`Editor.Turned`). All that can be said of what an editor remembers, of what becomes of its tasks
and of what it leaves in its log is read off these cases: `Editor.Sound` is kept, tasks only
advance, and a turn leaves something in the log only for a task that is alive.

Every turn brings the editor nearer to rest. At rest, just the tasks that have not ended are
remembered.
-/

namespace Lockable.Note.Editor

variable {e e' : Editor} {t : Task} {id : Nat} {name : String}

/-! ### What is remembered -/

/-- What an editor remembers of its tasks is right. -/
structure Sound (e : Editor) : Prop where
  indexed : Indexed e.tasks e.latest
  scheduled : Scheduled e.tasks e.latest e.jobs

theorem Sound.nil (behaviours : List String) : Sound { behaviours } := ⟨.nil, .nil⟩

/-- The task of a name that has not ended is the one that is alive. -/
theorem Sound.running?_eq_some_iff (h : Sound e) :
    e.running? name = some id ↔
      ∃ t, e.tasks[id]? = some t ∧ t.name = name ∧ t.phase.isAlive = true := by
  constructor
  · intro hid
    rw [running?] at hid
    rcases hfind : Keyed.find? name e.latest with _ | id' <;> rw [hfind] at hid
    · cases hid
    · obtain ⟨t, ht, rfl, hphase⟩ := h.indexed.current name id' hfind
      dsimp only at hid
      rw [ht] at hid
      rcases hdone : t.phase.isDone with _ | _ <;> simp only [hdone] at hid
      · cases hid
        exact ⟨t, ht, rfl, Phase.isAlive_iff.mpr ⟨hdone, hphase⟩⟩
      · cases hid
  · rintro ⟨t, ht, rfl, hlive⟩
    have hdone := (Phase.isAlive_iff.mp hlive).1
    rw [running?, h.indexed.entered id t ht hlive]
    dsimp only
    rw [ht]
    dsimp only
    rw [if_neg (by simp [hdone])]

theorem Sound.pending_iff (h : Sound e) (name : String) :
    e.pending name = true ↔
      ∃ (id : Nat) (t : Task), e.tasks[id]? = some t ∧ t.name = name ∧ t.phase.isAlive = true := by
  rw [pending, Option.isSome_iff_exists]
  exact exists_congr fun _ => h.running?_eq_some_iff

theorem pending_of_find? (h : Keyed.find? name e.latest = none) : e.pending name = false := by
  rw [pending, running?, h]
  rfl

/-- When nothing waits, the tasks that are remembered are those that have not ended. -/
theorem Sound.mem_latest_iff (h : Sound e) (hjobs : e.jobs = []) :
    (name, id) ∈ e.latest ↔
      ∃ t, e.tasks[id]? = some t ∧ t.name = name ∧ t.phase.isDone = false := by
  rw [← Keyed.find?_eq_some_iff h.indexed.nodup]
  constructor
  · intro hid
    obtain ⟨t, ht, hname, -⟩ := h.indexed.current name id hid
    refine ⟨t, ht, hname, ?_⟩
    rcases hdone : t.phase.isDone with _ | _
    · rfl
    · have hforget := h.scheduled.forgotten name id t hid ht hdone
      rw [hjobs] at hforget
      cases hforget
  · rintro ⟨t, ht, rfl, hdone⟩
    refine h.indexed.entered id t ht (Phase.isAlive_iff.mpr ⟨hdone, fun hstopping => ?_⟩)
    have hresume := h.scheduled.resumed id t ht (by rw [hstopping]; rfl)
    rw [hjobs] at hresume
    cases hresume

/-! ### Cancelling -/

@[simp]
theorem latest_stop (e : Editor) (id : Nat) : (e.stop id).latest = e.latest := by
  rw [stop]
  split <;> rfl

@[simp]
theorem log_stop (e : Editor) (id : Nat) : (e.stop id).log = e.log := by
  rw [stop]
  split <;> rfl

/-- A task that is alive is cancelled; it then waits for a turn, if it did not before. -/
theorem stop_eq (ht : e.tasks[id]? = some t) (hlive : t.phase.isAlive = true) :
    e.stop id = { e with
      tasks := moved e.tasks id .stopping
      jobs := if t.phase.isReady then e.jobs else e.jobs ++ [.resume id] } := by
  rw [stop, ht]
  obtain ⟨_, _, phase⟩ := t
  cases phase <;> first | rfl | cases hlive

/-- What cancelling the request for a name can do. -/
inductive Cancelled (e : Editor) (name : String) : Editor × Bool → Prop
  | stopped {id : Nat} {t : Task} (ht : e.tasks[id]? = some t) (hname : t.name = name)
      (hlive : t.phase.isAlive = true) :
    Cancelled e name ({ e with
      tasks := moved e.tasks id .stopping
      latest := Keyed.erase name e.latest
      jobs := if t.phase.isReady then e.jobs else e.jobs ++ [.resume id] }, true)
  | vacant (h : Vacant e.tasks name) :
    Cancelled e name ({ e with latest := Keyed.erase name e.latest }, false)

theorem Sound.cancelled (h : Sound e) (name : String) : Cancelled e name (e.cancel name) := by
  rw [Editor.cancel]
  rcases hrunning : e.running? name with _ | id
  · refine .vacant fun i t ht hname => ?_
    rcases hlive : t.phase.isAlive with _ | _
    · rfl
    · rw [h.running?_eq_some_iff.mpr ⟨t, ht, hname, hlive⟩] at hrunning
      cases hrunning
  · obtain ⟨t, ht, hname, hlive⟩ := h.running?_eq_some_iff.mp hrunning
    dsimp only
    rw [stop_eq (e := { e with latest := Keyed.erase name e.latest }) ht hlive]
    exact .stopped ht hname hlive

theorem Cancelled.sound {out : Editor × Bool} (hout : Cancelled e name out) (h : Sound e) :
    Sound out.1 := by
  cases hout with
  | @stopped id t ht hname hlive =>
    have hfind : Keyed.find? name e.latest = some id := hname ▸ h.indexed.entered id t ht hlive
    have hdone := (Phase.isAlive_iff.mp hlive).1
    refine ⟨h.indexed.stop hfind, (h.scheduled.moved (p := .stopping) ht hdone ?_ ?_ nofun ?_).erase
      name⟩
    · intro job hjob _
      split
      · exact hjob
      · exact List.mem_append_left _ hjob
    · rintro -
      split
      · next hready => exact h.scheduled.resumed id t ht hready
      · exact List.mem_append_right _ List.mem_cons_self
    · intro i hi
      refine .inl ?_
      split at hi
      · exact hi
      · simpa using hi
  | vacant hvacant => exact ⟨h.indexed.erase hvacant, h.scheduled.erase name⟩

theorem Sound.cancel (h : Sound e) (name : String) : Sound (e.cancel name).1 :=
  (h.cancelled name).sound h

/-- What every cancellation preserves is preserved when all is cancelled. -/
theorem cancelAll_preserves {motive : Editor → Prop} (h : motive e)
    (hcancel : ∀ e name, motive e → motive (e.cancel name).1) : motive e.cancelAll :=
  List.foldlRecOn _ _ h fun e he name _ => hcancel e name he

theorem Sound.cancelAll (h : Sound e) : Sound e.cancelAll :=
  cancelAll_preserves h fun _ name h => h.cancel name

theorem latest_cancel (e : Editor) (name : String) :
    (e.cancel name).1.latest = Keyed.erase name e.latest := by
  rw [Editor.cancel]
  split
  · exact latest_stop _ _
  · rfl

/-- A name that was cancelled is not remembered. -/
theorem find?_latest_cancel (e : Editor) (name : String) :
    Keyed.find? name (e.cancel name).1.latest = none := by
  rw [latest_cancel, Keyed.find?_erase_self]

/-- When all was cancelled no name is remembered. -/
theorem find?_latest_cancelAll (e : Editor) (name : String) :
    Keyed.find? name e.cancelAll.latest = none := by
  -- the names are those remembered at the start, so each is either still to come or forgotten
  have hfold (names : List String) :
      ∀ e : Editor, (name ∈ names ∨ Keyed.find? name e.latest = none) →
        Keyed.find? name (names.foldl (fun e name => (e.cancel name).1) e).latest = none := by
    induction names with
    | nil => exact fun e h => h.resolve_left List.not_mem_nil
    | cons other names ih =>
      refine fun e h => ih _ ?_
      by_cases hother : name = other
      · subst hother
        exact .inr (find?_latest_cancel e name)
      · rw [latest_cancel, Keyed.find?_erase_of_ne hother]
        exact h.imp_left fun hmem => (List.mem_cons.mp hmem).resolve_left hother
  refine hfold _ e ?_
  by_cases hmem : name ∈ e.latest.map Prod.fst
  · exact .inl hmem
  · exact .inr (Keyed.find?_eq_none_iff.mpr hmem)

theorem cancel_snd (e : Editor) (name : String) : (e.cancel name).2 = e.pending name := by
  rw [Editor.cancel, pending]
  rcases e.running? name with _ | id <;> rfl

theorem Cancelled.advanced {out : Editor × Bool} (hout : Cancelled e name out) :
    Advanced e.tasks out.1.tasks [] := by
  cases hout with
  | stopped ht _ _ => exact .moved ht nofun
  | vacant _ => exact .refl _

theorem Sound.advanced_cancelAll (h : Sound e) : Advanced e.tasks e.cancelAll.tasks [] := by
  have hboth : Sound e.cancelAll ∧ Advanced e.tasks e.cancelAll.tasks [] :=
    cancelAll_preserves (motive := fun e' => Sound e' ∧ Advanced e.tasks e'.tasks [])
      ⟨h, .refl _⟩ fun _ name hboth =>
        ⟨hboth.1.cancel name, hboth.2.trans (hboth.1.cancelled name).advanced⟩
  exact hboth.2

theorem log_cancel (e : Editor) (name : String) : (e.cancel name).1.log = e.log := by
  rw [Editor.cancel]
  split
  · exact log_stop _ _
  · rfl

theorem log_cancelAll (e : Editor) : e.cancelAll.log = e.log :=
  cancelAll_preserves (motive := fun e' => e'.log = e.log) rfl fun e' name h =>
    (log_cancel e' name).trans h

/-! ### Requests and answers -/

theorem Sound.edit (h : Sound e) (name container : String) : Sound (e.edit name container) := by
  have hcancelled := h.cancel name
  exact ⟨hcancelled.indexed.start (find?_latest_cancel e name) container,
    hcancelled.scheduled.start name container⟩

theorem Sound.answer (h : Sound e) (id : Nat) (a : Answer) : Sound (e.answer id a).1 := by
  rw [Editor.answer]
  split
  · next hphase =>
    obtain ⟨t, ht, hphase⟩ := Option.map_eq_some_iff.mp hphase
    refine ⟨h.indexed.moved ht nofun fun _ => ?_, h.scheduled.moved ht ?_ ?_ ?_ nofun ?_⟩
    · rw [hphase]
      rfl
    · rw [hphase]
      rfl
    · exact fun job hjob _ => List.mem_append_left _ hjob
    · exact fun _ => List.mem_append_right _ List.mem_cons_self
    · exact fun i hi => .inl (by simpa [wait, move] using hi)
  · exact h

theorem advanced_answer (e : Editor) (id : Nat) (a : Answer) :
    Advanced e.tasks (e.answer id a).1.tasks [] := by
  rw [Editor.answer]
  split
  · next hphase =>
    obtain ⟨t, ht, hphase⟩ := Option.map_eq_some_iff.mp hphase
    refine .moved ht fun _ => ?_
    rw [hphase]
    rfl
  · exact .refl _

/-! ### Turns -/

/-- What a turn can do. -/
inductive Turned (e : Editor) : Editor → Prop
  | idle (h : e.jobs = []) : Turned e e
  /-- The task has nothing to do. -/
  | skipped {id : Nat} {rest : List Job} (h : e.jobs = .resume id :: rest)
      (hready : ∀ t, e.tasks[id]? = some t → t.phase.isReady = false) :
    Turned e { e with jobs := rest }
  /-- The task asks the server. -/
  | asked {id : Nat} {rest : List Job} {t : Task} (h : e.jobs = .resume id :: rest)
      (ht : e.tasks[id]? = some t) (hcreated : t.phase = .created) :
    Turned e { e with
      tasks := moved e.tasks id .fetching
      fetches := e.fetches ++ [id]
      jobs := rest
      log := e.log ++ [.fetched t.name] }
  /-- The task comes to its end. If it was cancelled it does nothing more. -/
  | ended {id : Nat} {rest : List Job} {t : Task} (h : e.jobs = .resume id :: rest)
      (ht : e.tasks[id]? = some t) (hready : t.phase.isReady = true) (fetches : List Nat)
      (outcome : Outcome) (deeds : List Happening) (hdeeds : t.phase.isAlive = false → deeds = []) :
    Turned e { e with
      tasks := moved e.tasks id (.done outcome)
      fetches
      jobs := rest ++ [.forget id]
      log := e.log ++ deeds }
  /-- The task is forgotten. -/
  | forgotten {id : Nat} {rest : List Job} {t : Task} (h : e.jobs = .forget id :: rest)
      (ht : e.tasks[id]? = some t) (hlatest : Keyed.find? t.name e.latest = some id) :
    Turned e { e with latest := Keyed.erase t.name e.latest, jobs := rest }
  /-- The task is not remembered any more. -/
  | replaced {id : Nat} {rest : List Job} (h : e.jobs = .forget id :: rest)
      (hlatest : ∀ t, e.tasks[id]? = some t → Keyed.find? t.name e.latest ≠ some id) :
    Turned e { e with jobs := rest }

theorem turned_turnWith (e : Editor) (react : Reaction) (atOnce : Option Answer) :
    Turned e (e.turnWith react atOnce) := by
  rw [turnWith]
  rcases hjobs : e.jobs with _ | ⟨⟨id⟩ | ⟨id⟩, rest⟩
  · exact .idle hjobs
  · dsimp only
    rw [resumeWith]
    dsimp only
    rcases ht : e.tasks[id]? with _ | t
    · exact .skipped hjobs (by simp [ht])
    · dsimp only
      rcases hphase : t.phase with _ | _ | a | _ | outcome
      · rcases atOnce with _ | a
        · exact .asked hjobs ht hphase
        · -- asked and answered in one turn: of the two moves the second counts
          have hended := Turned.ended hjobs ht (by simp [hphase, Phase.isReady])
            (e.fetches ++ [id]) (react t a).2 (.fetched t.name :: (react t a).1)
            (by simp [hphase, Phase.isAlive])
          rw [← moved_moved e.tasks id .fetching, List.append_cons e.log] at hended
          exact hended
      · exact .skipped hjobs (by simp [ht, hphase, Phase.isReady])
      · exact .ended hjobs ht (by simp [hphase, Phase.isReady]) e.fetches _ _
          (by simp [hphase, Phase.isAlive])
      · have hended := Turned.ended hjobs ht (by simp [hphase, Phase.isReady]) e.fetches
          .cancelled [] fun _ => rfl
        rw [List.append_nil] at hended
        exact hended
      · exact .skipped hjobs (by simp [ht, hphase, Phase.isReady])
  · dsimp only
    rw [forget]
    dsimp only
    rcases ht : e.tasks[id]? with _ | t
    · exact .replaced hjobs (by simp [ht])
    · dsimp only
      split
      · next hlatest => exact .forgotten hjobs ht hlatest
      · next hlatest =>
        refine .replaced hjobs fun t' ht' => ?_
        rw [ht] at ht'
        cases ht'
        exact hlatest

theorem Turned.sound (hturned : Turned e e') (h : Sound e) : Sound e' := by
  have hscheduled := h.scheduled
  cases hturned with
  | idle => exact h
  | @skipped id rest hjobs hready =>
    rw [hjobs] at hscheduled
    exact ⟨h.indexed, hscheduled.spent (fun i t heq ht => hready t (Job.resume.inj heq ▸ ht)) nofun⟩
  | @asked id rest t hjobs ht hcreated =>
    rw [hjobs] at hscheduled
    refine ⟨h.indexed.moved ht nofun fun _ => ?_,
      hscheduled.moved (p := .fetching) ht ?_ (fun job hjob hne => ?_) nofun nofun fun i hi => ?_⟩
    · rw [hcreated]
      rfl
    · rw [hcreated]
      rfl
    · exact List.mem_of_ne_of_mem hne hjob
    · exact .inl (List.mem_cons_of_mem _ hi)
  | @ended id rest t hjobs ht hready fetches outcome deeds hdeeds =>
    rw [hjobs] at hscheduled
    refine ⟨h.indexed.moved ht nofun nofun,
      hscheduled.moved (p := .done outcome) ht ?_ (fun job hjob hne => ?_) nofun (fun _ => ?_)
        fun i hi => ?_⟩
    · exact Phase.isDone_of_isReady hready
    · exact List.mem_append_left _ (List.mem_of_ne_of_mem hne hjob)
    · exact List.mem_append_right _ List.mem_cons_self
    · rcases List.mem_append.mp hi with hi | hi
      · exact .inl (List.mem_cons_of_mem _ hi)
      · exact .inr ⟨Job.forget.inj (List.mem_singleton.mp hi), rfl⟩
  | @forgotten id rest t hjobs ht hlatest =>
    rw [hjobs] at hscheduled
    obtain ⟨t', ht', hdone⟩ := hscheduled.ended id List.mem_cons_self
    obtain rfl : t = t' := Option.some.inj (ht.symm.trans ht')
    refine ⟨h.indexed.erase fun i s hs hname => ?_, (hscheduled.erase t.name).spent nofun ?_⟩
    · -- an alive task of the name would be the one that is remembered, which has ended
      rcases hlive : s.phase.isAlive with _ | _
      · rfl
      · have hi := h.indexed.entered i s hs hlive
        rw [hname, hlatest] at hi
        cases hi
        obtain rfl : t = s := Option.some.inj (ht.symm.trans hs)
        rw [(Phase.isAlive_iff.mp hlive).1] at hdone
        cases hdone
    · intro name i s heq hi hs
      -- no task is remembered for two names
      cases heq
      obtain ⟨hne, hi⟩ := Keyed.find?_erase_eq_some_iff.mp hi
      obtain ⟨s', hs', hname, -⟩ := h.indexed.current name id hi
      obtain rfl : t = s' := Option.some.inj (ht.symm.trans hs')
      exact absurd hname.symm hne
  | @replaced id rest hjobs hlatest =>
    rw [hjobs] at hscheduled
    refine ⟨h.indexed, hscheduled.spent nofun fun name i t heq hi ht => ?_⟩
    -- a task that is remembered is so for its own name, so this one is not
    cases heq
    obtain ⟨t', ht', hname, -⟩ := h.indexed.current name id hi
    obtain rfl : t = t' := Option.some.inj (ht.symm.trans ht')
    exact absurd (hname ▸ hi) (hlatest t ht)

theorem Turned.advanced (h : Turned e e') : Advanced e.tasks e'.tasks [] := by
  cases h with
  | asked _ ht hcreated =>
    refine .moved ht fun _ => ?_
    rw [hcreated]
    rfl
  | ended _ ht _ _ _ _ _ => exact .moved ht nofun
  | _ => exact .refl _

/-- A turn adds to the log, and something only if the task was alive. -/
theorem Turned.log (h : Turned e e') :
    ∃ deeds, e'.log = e.log ++ deeds ∧ (deeds = [] ∨ ∃ id rest t, e.jobs = .resume id :: rest ∧
      e.tasks[id]? = some t ∧ t.phase.isAlive = true) := by
  cases h with
  | @asked id rest t hjobs ht hcreated =>
    exact ⟨_, rfl, .inr ⟨id, rest, t, hjobs, ht, by rw [hcreated]; rfl⟩⟩
  | @ended id rest t hjobs ht _ _ _ deeds hdeeds =>
    refine ⟨deeds, rfl, ?_⟩
    rcases hlive : t.phase.isAlive with _ | _
    · exact .inl (hdeeds hlive)
    · exact .inr ⟨id, rest, t, hjobs, ht, hlive⟩
  | _ => exact ⟨[], (List.append_nil _).symm, .inl rfl⟩

/-! ### Coming to rest -/

/-- How many turns it takes at most until nothing waits: one for each job, and one more for each
that may leave another one behind. -/
def turnsLeft (e : Editor) : Nat := e.jobs.length + e.jobs.countP Job.isResume

theorem turnsLeft_le (e : Editor) : e.turnsLeft ≤ 2 * e.jobs.length := by
  have hresume : e.jobs.countP Job.isResume ≤ e.jobs.length := List.countP_le_length
  rw [turnsLeft]
  omega

theorem jobs_of_turnsLeft (h : e.turnsLeft = 0) : e.jobs = [] :=
  List.length_eq_zero_iff.mp (Nat.add_eq_zero_iff.mp h).1

/-- A turn brings an editor nearer to rest. -/
theorem Turned.turnsLeft_le (h : Turned e e') : e'.turnsLeft ≤ e.turnsLeft - 1 := by
  have hresume (id : Nat) (rest : List Job) :
      (Job.resume id :: rest).countP Job.isResume = rest.countP Job.isResume + 1 :=
    List.countP_cons_of_pos rfl
  have hforget (id : Nat) (rest : List Job) :
      (Job.forget id :: rest).countP Job.isResume = rest.countP Job.isResume :=
    List.countP_cons_of_neg Bool.false_ne_true
  cases h with
  | idle hjobs => simp [turnsLeft, hjobs]
  | skipped hjobs _ | asked hjobs _ _ =>
    simp only [turnsLeft, hjobs, hresume, List.length_cons]
    omega
  | ended hjobs _ _ _ _ _ _ =>
    simp only [turnsLeft, hjobs, hresume, List.countP_append, hforget, List.countP_nil,
      List.length_append, List.length_cons, List.length_nil]
    omega
  | forgotten hjobs _ _ | replaced hjobs _ =>
    simp only [turnsLeft, hjobs, hforget, List.length_cons]
    omega

theorem jobs_turns (n : Nat) (e : Editor) (h : e.turnsLeft ≤ n) : (turns n e).jobs = [] := by
  induction n generalizing e with
  | zero => exact jobs_of_turnsLeft (Nat.le_zero.mp h)
  | succ n ih =>
    have hturned := (turned_turnWith e (digest e.behaviours) none).turnsLeft_le
    exact ih e.turn (Nat.le_trans hturned (by omega))

/-- An editor that has settled is at rest. -/
theorem jobs_settle (e : Editor) : e.settle.jobs = [] :=
  jobs_turns (2 * e.jobs.length) e e.turnsLeft_le

end Lockable.Note.Editor
