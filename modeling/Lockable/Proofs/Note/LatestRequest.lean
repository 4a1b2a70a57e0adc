import Lockable.Proofs.Note.Operations

/-!
# The latest request wins

Requests for notes, cancellations, answers of the server and turns of the tasks come in any order,
and what a task does with an answer is anything at all. Of every name at most one task is then
alive, the one of the latest request; a task that is superseded does nothing from then on, and does
not touch what is remembered of the task that has superseded it, whenever it ends
(`Editor.latest_request_wins`).

What is done is told by a chronicle, which has everything that an editor adds to its log together
with the task in whose turn it does.
-/

namespace Lockable.Note.Editor

variable {e : Editor} {t : Task} {id : Nat} {name : String}

/-! ### Events -/

/-- What may happen to an editor. A turn comes with what the task does with an answer, and with the
answer if the server gives it at once. -/
inductive Event where
  | edit (name container : String)
  | cancel (name : String)
  | cancelAll
  | answer (id : Nat) (a : Answer)
  | turn (react : Reaction) (atOnce : Option Answer)

/-- The editor after an event. -/
def happen (e : Editor) : Event → Editor
  | .edit name container => e.edit name container
  | .cancel name => (e.cancel name).1
  | .cancelAll => e.cancelAll
  | .answer id a => (e.answer id a).1
  | .turn react atOnce => e.turnWith react atOnce

/-- The editor after events in the order in which they happen. -/
def run (e : Editor) (events : List Event) : Editor := events.foldl happen e

/-- The requests among events. -/
def requests (events : List Event) : List (String × String) :=
  events.filterMap fun
    | .edit name container => some (name, container)
    | _ => none

theorem requests_append (events events' : List Event) :
    requests (events ++ events') = requests events ++ requests events' :=
  List.filterMap_append

/-- The event cancels what there is for a name. -/
def Event.Supersedes (name : String) : Event → Prop
  | .edit other _ => other = name
  | .cancel other => other = name
  | .cancelAll => True
  | _ => False

/-- The task that has its turn in an event. -/
def actor? (e : Editor) : Event → Option Nat
  | .turn _ _ =>
    match e.jobs with
    | .resume id :: _ => some id
    | _ => none
  | _ => none

/-- What happens in the course of events, each thing with the task in whose turn it does. -/
def chronicle (e : Editor) : List Event → List (Option Nat × Happening)
  | [] => []
  | event :: events =>
    ((e.happen event).log.drop e.log.length).map (fun h => (e.actor? event, h)) ++
      chronicle (e.happen event) events

theorem Sound.happen (h : Sound e) (event : Event) : Sound (e.happen event) := by
  cases event with
  | edit name container => exact h.edit name container
  | cancel name => exact h.cancel name
  | cancelAll => exact h.cancelAll
  | answer id a => exact h.answer id a
  | turn react atOnce => exact (turned_turnWith e react atOnce).sound h

theorem Sound.run (h : Sound e) (events : List Event) : Sound (e.run events) := by
  induction events generalizing e with
  | nil => exact h
  | cons event events ih => exact ih (h.happen event)

/-! ### What does not come back -/

theorem Sound.advanced_happen (h : Sound e) (event : Event) :
    Advanced e.tasks (e.happen event).tasks (requests [event]) := by
  cases event with
  | edit name container => exact (h.cancelled name).advanced.trans (.concat _ _)
  | cancel name => exact (h.cancelled name).advanced
  | cancelAll => exact h.advanced_cancelAll
  | answer id a => exact advanced_answer e id a
  | turn react atOnce => exact (turned_turnWith e react atOnce).advanced

theorem Sound.advanced_run (h : Sound e) (events : List Event) :
    Advanced e.tasks (e.run events).tasks (requests events) := by
  induction events generalizing e with
  | nil => exact .refl _
  | cons event events ih =>
    have hrest := (h.advanced_happen event).trans (ih (h.happen event))
    rw [← requests_append] at hrest
    exact hrest

/-- After an event that supersedes what there was for a name, no task that was there for it is
alive. -/
theorem Sound.superseded (h : Sound e) {event : Event} (hevent : event.Supersedes name) {i : Nat}
    (ht : e.tasks[i]? = some t) (hname : t.name = name) :
    ∃ t', (e.happen event).tasks[i]? = some t' ∧ t'.phase.isAlive = false := by
  -- every cancellation empties the name, and then none of its tasks is alive
  have hvacant {e' : Editor} (h' : Sound e') (hadvanced : Advanced e.tasks e'.tasks [])
      (hnone : Keyed.find? name e'.latest = none) :
      ∃ t', e'.tasks[i]? = some t' ∧ t'.phase.isAlive = false := by
    obtain ⟨t', ht', -⟩ := hadvanced.kept i t ht
    have hname' : t'.name = name := (hadvanced.name_eq ht ht').trans hname
    exact ⟨t', ht', h'.indexed.vacant hnone i t' ht' hname'⟩
  cases event with
  | edit other container =>
    cases hevent
    obtain ⟨t', ht', hdead⟩ :=
      hvacant (h.cancel name) (h.cancelled name).advanced (find?_latest_cancel e name)
    exact ⟨t', getElem?_concat.mpr (.inl ht'), hdead⟩
  | cancel other =>
    cases hevent
    exact hvacant (h.cancel name) (h.cancelled name).advanced (find?_latest_cancel e name)
  | cancelAll =>
    exact hvacant h.cancelAll h.advanced_cancelAll (find?_latest_cancelAll e name)
  | answer => exact hevent.elim
  | turn => exact hevent.elim

/-! ### What is done -/

/-- **What an event adds to the log**: a request its placeholder, a turn what the task does, if it
is alive, and all else nothing. -/
theorem log_happen (e : Editor) (event : Event) :
    ∃ deeds, (e.happen event).log = e.log ++ deeds ∧ ∀ h ∈ deeds,
      (e.actor? event = none ∧ ∃ name container, event = .edit name container ∧
        h = .shown container .loading) ∨
      ∃ id t, e.actor? event = some id ∧ e.tasks[id]? = some t ∧ t.phase.isAlive = true := by
  cases event with
  | edit name container =>
    refine ⟨[.shown container .loading], congrArg (· ++ _) (log_cancel e name), fun h hh => ?_⟩
    exact .inl ⟨rfl, name, container, rfl, List.mem_singleton.mp hh⟩
  | cancel name => exact ⟨[], by rw [happen, log_cancel, List.append_nil], nofun⟩
  | cancelAll => exact ⟨[], by rw [happen, log_cancelAll, List.append_nil], nofun⟩
  | answer id a =>
    refine ⟨[], ?_, nofun⟩
    rw [happen, Editor.answer, List.append_nil]
    split <;> rfl
  | turn react atOnce =>
    obtain ⟨deeds, hlog, hdeeds⟩ := (turned_turnWith e react atOnce).log
    refine ⟨deeds, hlog, fun h hh => .inr ?_⟩
    rcases hdeeds with rfl | ⟨id, rest, t, hjobs, ht, hlive⟩
    · cases hh
    · exact ⟨id, t, by rw [actor?, hjobs], ht, hlive⟩

/-- The chronicle tells all that is done. -/
theorem log_run (e : Editor) (events : List Event) :
    (e.run events).log = e.log ++ (e.chronicle events).map Prod.snd := by
  induction events generalizing e with
  | nil => exact (List.append_nil _).symm
  | cons event events ih =>
    obtain ⟨deeds, hlog, -⟩ := log_happen e event
    have hnew : (e.happen event).log.drop e.log.length = deeds := by rw [hlog, List.drop_left]
    have hrest : (e.run (event :: events)).log =
        (e.happen event).log ++ ((e.happen event).chronicle events).map Prod.snd := ih _
    rw [hrest, hlog, chronicle, hnew, List.map_append, List.map_map, List.append_assoc]
    congr 2
    exact (List.map_id _).symm

/-- What stands in a chronicle is either done in the first event, and then a placeholder is shown or
a task that is alive has its turn, or it is done later. -/
theorem of_mem_chronicle_cons {event : Event} {events : List Event} {actor : Option Nat}
    {h : Happening} (hmem : (actor, h) ∈ e.chronicle (event :: events)) :
    (actor = none ∧ ∃ name container, event = .edit name container ∧
        h = .shown container .loading) ∨
      (∃ id t, actor = some id ∧ e.tasks[id]? = some t ∧ t.phase.isAlive = true) ∨
      (actor, h) ∈ (e.happen event).chronicle events := by
  rw [chronicle] at hmem
  rcases List.mem_append.mp hmem with hmem | hmem
  · obtain ⟨deeds, hlog, hdeeds⟩ := log_happen e event
    rw [hlog, List.drop_left] at hmem
    obtain ⟨h', hh', heq⟩ := List.mem_map.mp hmem
    obtain ⟨rfl, rfl⟩ := Prod.mk.inj heq
    rcases hdeeds h' hh' with hshown | hturn
    · exact .inl hshown
    · exact .inr (.inl hturn)
  · exact .inr (.inr hmem)

/-- What is done in nobody's turn is to show the placeholder of a request. -/
theorem of_mem_chronicle_none {events : List Event} {h : Happening}
    (hmem : (none, h) ∈ e.chronicle events) :
    ∃ name container, .edit name container ∈ events ∧ h = .shown container .loading := by
  induction events generalizing e with
  | nil => cases hmem
  | cons event events ih =>
    rcases of_mem_chronicle_cons hmem with ⟨-, name, container, rfl, hshown⟩ | ⟨_, _, hnone, -⟩ |
      hlater
    · exact ⟨name, container, List.mem_cons_self, hshown⟩
    · cases hnone
    · obtain ⟨name, container, hevent, hshown⟩ := ih hlater
      exact ⟨name, container, List.mem_cons_of_mem _ hevent, hshown⟩

/-- A task that is not alive does nothing any more. -/
theorem Sound.not_mem_chronicle (hsound : Sound e) {i : Nat} (ht : e.tasks[i]? = some t)
    (hdead : t.phase.isAlive = false) (events : List Event) (h : Happening) :
    (some i, h) ∉ e.chronicle events := by
  induction events generalizing e t with
  | nil => exact List.not_mem_nil
  | cons event events ih =>
    intro hmem
    rcases of_mem_chronicle_cons hmem with ⟨hnone, -⟩ | ⟨id, t', hid, ht', hlive⟩ | hlater
    · cases hnone
    · -- it would be this task's turn, and the task would be alive
      cases hid
      obtain rfl : t = t' := Option.some.inj (ht.symm.trans ht')
      rw [hdead] at hlive
      cases hlive
    · obtain ⟨t', ht', hkept⟩ := (hsound.advanced_happen event).kept i t ht
      exact ih (hsound.happen event) ht' (hkept hdead) hlater

/-! ### What stays remembered -/

/-- A task stays remembered for its name until the name is cancelled or the task has ended and is
itself forgotten. -/
theorem find?_latest_happen (hid : Keyed.find? name e.latest = some id) (event : Event) :
    Keyed.find? name (e.happen event).latest = some id ∨ event.Supersedes name ∨
      (∃ react atOnce, event = .turn react atOnce) ∧ e.jobs.head? = some (.forget id) := by
  have hcancel {other : String} (hne : name ≠ other) :
      Keyed.find? name (e.cancel other).1.latest = some id := by
    rw [latest_cancel, Keyed.find?_erase_of_ne hne, hid]
  cases event with
  | edit other container =>
    by_cases hne : name = other
    · exact .inr (.inl hne.symm)
    · exact .inl ((Keyed.find?_insert_of_ne hne _ _).trans (hcancel hne))
  | cancel other =>
    by_cases hne : name = other
    · exact .inr (.inl hne.symm)
    · exact .inl (hcancel hne)
  | cancelAll => exact .inr (.inl trivial)
  | answer i a =>
    refine .inl ?_
    rw [happen, Editor.answer]
    split <;> exact hid
  | turn react atOnce =>
    have hturned : Turned e (e.happen (.turn react atOnce)) := turned_turnWith e react atOnce
    generalize e.happen (.turn react atOnce) = e' at hturned
    cases hturned with
    | @forgotten i rest t hjobs ht hlatest =>
      by_cases hne : name = t.name
      · rw [hne, hlatest] at hid
        cases hid
        exact .inr (.inr ⟨⟨react, atOnce, rfl⟩, by rw [hjobs]; rfl⟩)
      · exact .inl ((Keyed.find?_erase_of_ne hne _).trans hid)
    | _ => exact .inl hid

/-- **Turns bring an editor to rest**, whatever the tasks do in them. -/
theorem jobs_run_turns (turns : List (Reaction × Option Answer)) :
    ∀ e : Editor, e.turnsLeft ≤ turns.length →
      (e.run (turns.map fun turn => .turn turn.1 turn.2)).jobs = [] := by
  induction turns with
  | nil =>
    intro e hle
    exact jobs_of_turnsLeft (Nat.le_zero.mp hle)
  | cons turn turns ih =>
    intro e hle
    have hturned := (turned_turnWith e turn.1 turn.2).turnsLeft_le
    rw [List.length_cons] at hle
    exact ih (e.turnWith turn.1 turn.2) (by omega)

/-! ### The latest request wins -/

/-- What holds of an editor of a run: **the latest request wins**. -/
structure LatestWins (past : List Event) (e : Editor) : Prop where
  /-- Every request has made a task. -/
  requested : e.tasks.map Task.place = requests past
  /-- A task that is alive is the one of the latest request for its name. -/
  newest : ∀ (id : Nat) (t : Task), e.tasks[id]? = some t → t.phase.isAlive = true →
    ∀ (i : Nat) (t' : Task), e.tasks[i]? = some t' → t'.name = t.name → i ≤ id
  pending_iff : ∀ name, e.pending name = true ↔
    ∃ (id : Nat) (t : Task), e.tasks[id]? = some t ∧ t.name = name ∧ t.phase.isAlive = true
  cancel : ∀ name, (e.cancel name).2 = e.pending name ∧ (e.cancel name).1.pending name = false
  /-- A task that is superseded does nothing from then on. -/
  superseded : ∀ (id : Nat) (t : Task), e.tasks[id]? = some t →
    ∀ event : Event, event.Supersedes t.name →
      ∀ later h, (some id, h) ∉ (e.happen event).chronicle later
  /-- All that is done is done by a task in its turn, but for the placeholders. -/
  logged : ∀ later, (e.run later).log = e.log ++ (e.chronicle later).map Prod.snd ∧
    ∀ h, (none, h) ∈ e.chronicle later →
      ∃ name container, .edit name container ∈ later ∧ h = .shown container .loading
  /-- No task takes what is remembered of another one out. -/
  remembered : ∀ name id event, Keyed.find? name e.latest = some id →
    Keyed.find? name (e.happen event).latest = some id ∨ event.Supersedes name ∨
      (∃ react atOnce, event = .turn react atOnce) ∧ e.jobs.head? = some (.forget id)
  /-- Turns bring the editor to rest. -/
  rests : ∀ turns : List (Reaction × Option Answer), 2 * e.jobs.length ≤ turns.length →
    (e.run (turns.map fun turn => .turn turn.1 turn.2)).jobs = []
  /-- At rest just the tasks that have not ended are remembered. -/
  rested : e.jobs = [] → ∀ name id, (name, id) ∈ e.latest ↔
    ∃ t : Task, e.tasks[id]? = some t ∧ t.name = name ∧ t.phase.isDone = false

/-- **The latest request wins**, in whatever order requests, cancellations, answers and turns come,
and whatever the tasks do with the answers. -/
theorem latest_request_wins (behaviours : List String) (past : List Event) :
    LatestWins past (run { behaviours } past) := by
  have hnew : Sound { behaviours } := .nil behaviours
  have h : Sound (run { behaviours } past) := hnew.run past
  generalize hrun : run { behaviours } past = e at h
  refine ⟨?_, ?_, h.pending_iff, ?_, ?_, ?_, ?_, ?_, ?_⟩
  · have hplaced := (hnew.advanced_run past).placed
    rw [hrun] at hplaced
    exact hplaced
  · intro id t ht hlive
    exact h.indexed.newest t.name id (h.indexed.entered id t ht hlive)
  · intro name
    exact ⟨cancel_snd e name, pending_of_find? (find?_latest_cancel e name)⟩
  · intro id t ht event hevent later happening
    obtain ⟨t', ht', hdead⟩ := h.superseded hevent ht rfl
    exact (h.happen event).not_mem_chronicle ht' hdead later happening
  · exact fun later => ⟨log_run e later, fun _ => of_mem_chronicle_none⟩
  · exact fun name id event hid => find?_latest_happen hid event
  · exact fun turns hle => jobs_run_turns turns e (Nat.le_trans e.turnsLeft_le hle)
  · exact fun hjobs name id => h.mem_latest_iff hjobs

end Lockable.Note.Editor
