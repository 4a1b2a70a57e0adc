import Mathlib.Data.List.Induction
import Lockable.Proofs.Panel.Failure

/-!
# Snapshots under their names

A `Tracker` reads the selection from a table of any kind, if one is attached, and files the last
snapshot of every row. Anything may be done to it in any order (`Tracker.Act`): snapshots come and
go, another table is attached or none, the selection is asked for and cleared, and meanwhile the
table changes as it likes.

What is found under a name is then known from what was done (`Tracker.get?_run`): the snapshot that
was **recorded last** under it, unless it was dropped since. Together with `distinct`, which keeps
the names in the order of first occurrence (`pairwise_idxOf_distinct`), this says what the
selection and its snapshots are (`Tracker.selection_of_run`).

A `Bench` is the tracker of its bar and its table, and each of its steps does some of these acts
(`Bench.tracker_step`).
-/

namespace Lockable

/-- The names are left in the order in which they first occur. -/
theorem pairwise_idxOf_distinct (names : List String) :
    (distinct names).Pairwise fun a b => names.idxOf a < names.idxOf b := by
  induction names with
  | nil => exact .nil
  | cons head rest ih =>
    rw [distinct, List.pairwise_cons]
    constructor
    · intro b hb
      have hne : head ≠ b := fun heq => by simp [heq] at hb
      rw [List.idxOf_cons_self, List.idxOf_cons_ne _ hne]
      exact Nat.succ_pos _
    · refine (ih.filter _).imp_of_mem fun {a b} ha hb hlt => ?_
      have hne : ∀ c, c ∈ (distinct rest).filter (· ≠ head) → head ≠ c := by
        rintro c hc rfl
        simp at hc
      rw [List.idxOf_cons_ne _ (hne a ha), List.idxOf_cons_ne _ (hne b hb)]
      exact Nat.succ_lt_succ hlt

/-- The names of the snapshots of a selection are some of its names, in their order, if every
snapshot is under its own name. -/
theorem Snapshots.sublist_map_name_selected {snapshots : Snapshots}
    (h : ∀ name r, get? name snapshots = some r → r.name = name) (names : List String) :
    ((selected names snapshots).map Resource.name).Sublist names := by
  induction names with
  | nil => exact .slnil
  | cons name rest ih =>
    rw [selected, List.filterMap_cons]
    cases hget : get? name snapshots with
    | none => exact ih.cons _
    | some r =>
      rw [List.map_cons, h name r hget]
      exact ih.cons_cons _

/-- What reads the selection from a table, if there is one, and keeps the snapshots. -/
structure Tracker (τ : Type) where
  table : Option τ := none
  snapshots : Snapshots := []

namespace Tracker

variable {τ : Type} {kind : TableKind τ} {t : Tracker τ} {r : Resource} {name : String}

/-! ### Operations -/

/-- The names of the selected rows. -/
def selection (kind : TableKind τ) (t : Tracker τ) : Except Failure (List String) × Tracker τ :=
  match t.table with
  | none => (.ok [], t)
  | some table => ((kind.selection table).1, { t with table := (kind.selection table).2 })

/-- The snapshots of the selected rows. -/
def selectedResources (kind : TableKind τ) (t : Tracker τ) :
    Except Failure (List Resource) × Tracker τ :=
  ((t.selection kind).1.map (Snapshots.selected · t.snapshots), (t.selection kind).2)

/-- Clears the selection. -/
def cleared (kind : TableKind τ) (t : Tracker τ) : Except Failure Unit × Tracker τ :=
  match t.table with
  | none => (.ok (), t)
  | some table => ((kind.cleared table).1, { t with table := (kind.cleared table).2 })

/-- Something that is done to a tracker or to its table. -/
inductive Act (τ : Type) where
  /-- A snapshot is recorded. -/
  | record (r : Resource)
  /-- The snapshot of a name is dropped. -/
  | forget (name : String)
  /-- Another table is attached, or none. -/
  | attach (table : Option τ)
  /-- The selection is cleared. -/
  | clear
  /-- The selection is asked for. -/
  | ask
  /-- The table changes, if there is one. -/
  | meanwhile (change : τ → τ)

/-- Does it; what the table answers does not matter. -/
def act (kind : TableKind τ) (t : Tracker τ) : Act τ → Tracker τ
  | .record r => { t with snapshots := Snapshots.record r t.snapshots }
  | .forget name => { t with snapshots := Snapshots.forget name t.snapshots }
  | .attach table => { t with table }
  | .clear => (t.cleared kind).2
  | .ask => (t.selection kind).2
  | .meanwhile change => { t with table := t.table.map change }

/-- Does one thing after another. -/
def run (kind : TableKind τ) (t : Tracker τ) (acts : List (Act τ)) : Tracker τ :=
  acts.foldl (act kind) t

theorem run_append (kind : TableKind τ) (t : Tracker τ) (acts acts' : List (Act τ)) :
    t.run kind (acts ++ acts') = (t.run kind acts).run kind acts' :=
  List.foldl_append

theorem run_concat (kind : TableKind τ) (t : Tracker τ) (acts : List (Act τ)) (a : Act τ) :
    t.run kind (acts ++ [a]) = (t.run kind acts).act kind a :=
  run_append kind t acts [a]

/-! ### What is found under a name -/

/-- The act **touches** a name: it records a snapshot under it or drops it. -/
def Act.Touches (name : String) : Act τ → Prop
  | .record r => r.name = name
  | .forget name' => name' = name
  | _ => False

/-- The snapshot was **recorded last** under its name, and not dropped since. -/
def RecordedLast (acts : List (Act τ)) (r : Resource) : Prop :=
  ∃ before after, acts = before ++ .record r :: after ∧ ∀ a ∈ after, ¬ a.Touches r.name

theorem not_recordedLast_nil (r : Resource) : ¬ RecordedLast ([] : List (Act τ)) r := by
  rintro ⟨before, after, h, -⟩
  simp at h

theorem recordedLast_concat {acts : List (Act τ)} {a : Act τ} :
    RecordedLast (acts ++ [a]) r ↔ a = .record r ∨ ¬ a.Touches r.name ∧ RecordedLast acts r := by
  constructor
  · rintro ⟨before, after, h, hafter⟩
    rcases List.eq_nil_or_concat after with rfl | ⟨after, a', rfl⟩
    · exact .inl (List.singleton_inj.mp (List.append_inj' h rfl).2)
    · rw [List.concat_eq_append] at h hafter
      rw [← List.cons_append, ← List.append_assoc] at h
      obtain ⟨hacts, ha⟩ := List.append_inj' h rfl
      cases ha
      exact .inr ⟨hafter a (by simp), before, after, hacts, fun x hx => hafter x (by simp [hx])⟩
  · rintro (rfl | ⟨ha, before, after, rfl, hafter⟩)
    · exact ⟨acts, [], rfl, by simp⟩
    · refine ⟨before, after ++ [a], by simp, fun x hx => ?_⟩
      rcases List.mem_append.mp hx with hx | hx
      · exact hafter x hx
      · rwa [List.mem_singleton.mp hx]

/-- Asking a table changes no snapshot, whatever it answers. -/
@[simp]
theorem snapshots_selection (kind : TableKind τ) (t : Tracker τ) :
    (t.selection kind).2.snapshots = t.snapshots := by
  rw [selection]
  split <;> rfl

@[simp]
theorem snapshots_selectedResources (kind : TableKind τ) (t : Tracker τ) :
    (t.selectedResources kind).2.snapshots = t.snapshots :=
  snapshots_selection kind t

@[simp]
theorem snapshots_cleared (kind : TableKind τ) (t : Tracker τ) :
    (t.cleared kind).2.snapshots = t.snapshots := by
  rw [cleared]
  split <;> rfl

/-- **One act**: a snapshot is found afterwards if it was just recorded, or if it was found before
and the act does not touch its name. -/
theorem get?_act (kind : TableKind τ) (t : Tracker τ) (a : Act τ) :
    Snapshots.get? name (t.act kind a).snapshots = some r ↔
      (a = .record r ∧ r.name = name) ∨
        ¬ a.Touches name ∧ Snapshots.get? name t.snapshots = some r := by
  cases a with
  | record r' =>
    simp only [act, Snapshots.get?_record, Act.Touches, Act.record.injEq]
    split
    · next heq =>
      subst heq
      simp only [not_true, false_and, or_false, Option.some.injEq]
      exact ⟨fun h => ⟨h, h ▸ rfl⟩, And.left⟩
    · next hne =>
      refine ⟨fun h => .inr ⟨Ne.symm hne, h⟩, ?_⟩
      rintro (⟨rfl, rfl⟩ | ⟨-, h⟩)
      · exact absurd rfl hne
      · exact h
  | forget name' =>
    simp only [act, Act.Touches, reduceCtorEq, false_and, false_or]
    exact Keyed.find?_erase_eq_some_iff.trans (and_congr_left' ne_comm)
  | _ => simp [act, Act.Touches]

/-- **A whole run**: under a name the snapshot is found that was recorded last under it and not
dropped since. -/
theorem get?_run (kind : TableKind τ) (table : Option τ) (acts : List (Act τ)) :
    Snapshots.get? name (run kind { table } acts).snapshots = some r ↔
      r.name = name ∧ RecordedLast acts r := by
  induction acts using List.reverseRecOn with
  | nil => exact iff_of_false (by simp [run, Snapshots.get?]) fun h => not_recordedLast_nil r h.2
  | append_singleton acts a ih =>
    rw [run_concat, get?_act, ih, recordedLast_concat]
    constructor
    · rintro (⟨ha, hname⟩ | ⟨ha, hname, hlast⟩)
      · exact ⟨hname, .inl ha⟩
      · exact ⟨hname, .inr ⟨hname ▸ ha, hlast⟩⟩
    · rintro ⟨rfl, ha | ⟨ha, hlast⟩⟩
      · exact .inl ⟨ha, rfl⟩
      · exact .inr ⟨ha, rfl, hlast⟩

/-! ### What the table answers -/

/-- There is a table, and it reports these names as checked. -/
def Reports (kind : TableKind τ) (t : Tracker τ) (names : List String) : Prop :=
  ∃ table table', t.table = some table ∧ kind.checked table = (.ok names, table')

/-- There is no table, or it is not available for this. -/
def Unavailable {α : Type} (t : Tracker τ) (ask : τ → Except SourceFailure α × τ) : Prop :=
  ∀ table, t.table = some table → ∃ table', ask table = (.error .unavailable, table')

theorem selection_of_reports {names : List String} (h : t.Reports kind names) :
    (t.selection kind).1 = .ok (distinct names) := by
  obtain ⟨table, table', htable, hnames⟩ := h
  rw [selection, htable]
  dsimp only
  rw [TableKind.selection, hnames]

theorem selection_of_unavailable (h : t.Unavailable kind.checked) :
    (t.selection kind).1 = .ok [] := by
  rw [selection]
  split
  · rfl
  · next table htable =>
    obtain ⟨table', hasked⟩ := h table htable
    dsimp only
    rw [TableKind.selection, hasked]

theorem cleared_of_unavailable (h : t.Unavailable kind.uncheck) :
    (t.cleared kind).1 = .ok () := by
  rw [cleared]
  split
  · rfl
  · next table htable =>
    obtain ⟨table', hasked⟩ := h table htable
    dsimp only
    rw [TableKind.cleared, hasked]

end Tracker

/-! ### The tracker of a bench -/

/-- A table that answers the same until it is changed. -/
def Source.steady : TableKind Source where
  checked s := (s.failure.elim (.ok s.checked) .error, s)
  uncheck s :=
    match s.failure with
    | none => (.ok (), { s with checked := [] })
    | some failure => (.error failure, s)

/-- With such a table the selection is read as the bar reads it. -/
theorem Tracker.selection_steady (t : Tracker Source) :
    t.selection Source.steady = (Source.selection t.table, t) := by
  rcases t with ⟨_ | ⟨checked, _ | _ | cause⟩, snapshots⟩ <;> rfl

theorem Tracker.cleared_steady (t : Tracker Source) :
    t.cleared Source.steady = match Source.cleared t.table with
      | .ok table => (.ok (), { t with table })
      | .error e => (.error e, t) := by
  rcases t with ⟨_ | ⟨checked, _ | _ | cause⟩, snapshots⟩ <;> rfl

namespace Bench

open Tracker (Act)

/-- The tracker of the bar and the table. -/
def tracker (b : Bench) : Tracker Source := ⟨b.source, b.bar.snapshots⟩

theorem selection_tracker (b : Bench) :
    b.tracker.selection Source.steady = (b.selection, b.tracker) :=
  b.tracker.selection_steady

theorem selectedResources_tracker (b : Bench) :
    b.tracker.selectedResources Source.steady = (b.selected, b.tracker) := by
  rw [Tracker.selectedResources, selection_tracker]
  rfl

/-- What a step does to the tracker: a row that is checked or unchecked is recorded, and permissions
that can be read clear the selection. -/
def acts (b : Bench) : Step → List (Act Source)
  | .load raw =>
    match Permissions.derive raw with
    | .ok _ => [.clear]
    | .error _ => []
  | .check payload =>
    match Resource.fromSnapshot payload with
    | .ok r => [.meanwhile fun s => { s with checked := s.checked ++ [r.name] }, .record r]
    | .error _ => []
  | .uncheck payload =>
    match Resource.fromSnapshot payload with
    | .ok r =>
      if r.name ∈ b.table.checked then
        [.meanwhile fun s => { s with checked := s.checked.erase r.name }, .record r]
      else []
    | .error _ => []
  | .change payload _ | .record payload =>
    match Resource.fromSnapshot payload with
    | .ok r => [.record r]
    | .error _ => []
  | .select names => [.meanwhile fun s => { s with checked := names }]
  | .forget name => [.forget name]
  | .clear => [.clear]
  | .attach attached => [.attach (if attached then some b.table else none)]
  | .tableFails failure => [.meanwhile fun s => { s with failure }]
  | _ => []

/-- A change of the table of a bench is one of the table that is attached, if one is. -/
theorem source_modify (b : Bench) (change : Source → Source) :
    source { b with table := change b.table } = b.source.map change := by
  rw [source, source]
  cases b.attached <;> rfl

/-- Clearing the selection, as the table of the bench allows it. -/
theorem run_clear (b : Bench) :
    b.tracker.run Source.steady [.clear] = match Source.cleared b.source with
      | .ok source => ⟨source, b.bar.snapshots⟩
      | .error _ => b.tracker := by
  have htable : b.tracker.table = b.source := rfl
  rw [Tracker.run, List.foldl_cons, List.foldl_nil, Tracker.act, Tracker.cleared_steady, htable]
  cases Source.cleared b.source <;> rfl

/-- The report of a row records it. -/
theorem tracker_settle_selectionChanged (b : Bench) (r : Resource) (checked : Bool) :
    (b.settle (b.bar.selectionChanged r checked b.source)).1.tracker =
      ⟨b.source, Snapshots.record r b.bar.snapshots⟩ :=
  congrArg (Tracker.mk b.source)
    (ActionBar.adjusts_selectionChanged r checked b.source b.bar).snapshots

/-- **One step** of a bench is what its acts are to the tracker. -/
theorem tracker_step (b : Bench) (s : Step) :
    (b.step s).1.tracker = b.tracker.run Source.steady (b.acts s) := by
  cases s with
  | load raw =>
    rw [step, acts]
    cases hp : Permissions.derive raw with
    | error e =>
      rw [ActionBar.load, hp]
      rfl
    | ok p =>
      dsimp only
      rw [run_clear]
      cases hcleared : Source.cleared b.source with
      | error e =>
        rw [ActionBar.load, hp]
        dsimp only
        rw [hcleared]
        rfl
      | ok cleared =>
        obtain ⟨after, hload, hloaded⟩ := ActionBar.exists_loaded hp hcleared b.bar
        rw [hload]
        dsimp only
        rw [← hloaded.snapshots, ← source_of_cleared hcleared, tracker, source]
        cases b.attached <;> rfl
  | sessionLoad raw =>
    rw [step]
    cases Permissions.derive raw <;> rfl
  | check payload =>
    rw [step, withResource, acts]
    cases Resource.fromSnapshot payload with
    | error e => rfl
    | ok r =>
      refine (tracker_settle_selectionChanged _ r true).trans ?_
      exact congrArg (Tracker.mk · _)
        (b.source_modify fun s => { s with checked := s.checked ++ [r.name] })
  | uncheck payload =>
    rw [step, withResource, acts]
    cases Resource.fromSnapshot payload with
    | error e => rfl
    | ok r =>
      dsimp only
      split
      · refine (tracker_settle_selectionChanged _ r false).trans ?_
        exact congrArg (Tracker.mk · _)
          (b.source_modify fun s => { s with checked := s.checked.erase r.name })
      · rfl
  | change payload checked =>
    rw [step, withResource, acts]
    cases Resource.fromSnapshot payload with
    | error e => rfl
    | ok r => exact tracker_settle_selectionChanged b r checked
  | select names =>
    exact congrArg (Tracker.mk · b.bar.snapshots)
      (b.source_modify fun s => { s with checked := names })
  | record payload =>
    rw [step, withResource, acts]
    cases Resource.fromSnapshot payload <;> rfl
  | clear =>
    rw [step, acts, run_clear]
    cases hcleared : Source.cleared b.source with
    | error e => rfl
    | ok cleared => exact congrArg (Tracker.mk · b.bar.snapshots) (source_of_cleared hcleared)
  | tableFails failure =>
    exact congrArg (Tracker.mk · b.bar.snapshots) (b.source_modify fun s => { s with failure })
  | refresh =>
    exact congrArg (Tracker.mk b.source) (ActionBar.adjusts_refresh b.source b.bar).snapshots
  | bind capabilities =>
    rw [step]
    cases capabilities.mapM Capability.read <;> rfl
  | _ => rfl

/-- The bench after these steps, whether they fail or not. -/
def after (b : Bench) (steps : List Step) : Bench := steps.foldl (fun b s => (b.step s).1) b

/-- What these steps do to the tracker. -/
def allActs (b : Bench) : List Step → List (Act Source)
  | [] => []
  | s :: rest => b.acts s ++ (b.step s).1.allActs rest

/-- **A run** of a bench is what its acts are to the tracker. -/
theorem tracker_after (b : Bench) (steps : List Step) :
    (b.after steps).tracker = b.tracker.run Source.steady (b.allActs steps) := by
  induction steps generalizing b with
  | nil => rfl
  | cons s rest ih =>
    rw [allActs, Tracker.run_append, ← tracker_step]
    exact ih _

end Bench

namespace Tracker

variable {τ : Type}

/-- **The selection and its snapshots.** Whatever was done before, and whatever the table answers:
the names that it reports are selected, each once and in the order of first occurrence, and in this
order the selection has one snapshot for every name, the one that was recorded last under it, unless
it was dropped since. Nothing is selected while there is no table or it is not available, and
clearing the selection then succeeds. Asking and clearing change no snapshot. A bench is such a
tracker with the table that it has, whatever steps it goes through. -/
theorem selection_of_run (kind : TableKind τ) (table : Option τ) (acts : List (Act τ)) :
    let t := run kind { table } acts
    (∀ names, t.Reports kind names → ∃ selection resources,
      (t.selection kind).1 = .ok selection ∧ (t.selectedResources kind).1 = .ok resources ∧
        (∀ name, name ∈ selection ↔ name ∈ names) ∧ selection.Nodup ∧
        selection.Pairwise (fun a b => names.idxOf a < names.idxOf b) ∧
        (∀ r, r ∈ resources ↔ r.name ∈ names ∧ RecordedLast acts r) ∧
        (resources.map Resource.name).Nodup ∧
        (resources.map Resource.name).Sublist selection) ∧
      (t.Unavailable kind.checked →
        (t.selection kind).1 = .ok [] ∧ (t.selectedResources kind).1 = .ok []) ∧
      (t.Unavailable kind.uncheck → (t.cleared kind).1 = .ok ()) ∧
      ((t.selection kind).2.snapshots = t.snapshots ∧
        (t.selectedResources kind).2.snapshots = t.snapshots ∧
        (t.cleared kind).2.snapshots = t.snapshots) ∧
      ∀ b : Bench,
        b.tracker.selection Source.steady = (b.selection, b.tracker) ∧
          b.tracker.selectedResources Source.steady = (b.selected, b.tracker) ∧
          ∀ steps, (b.after steps).tracker = b.tracker.run Source.steady (b.allActs steps) := by
  intro t
  refine ⟨fun names h => ?_, fun h => ?_, cleared_of_unavailable,
    ⟨snapshots_selection kind t, snapshots_selectedResources kind t, snapshots_cleared kind t⟩,
    fun b => ⟨b.selection_tracker, b.selectedResources_tracker, b.tracker_after⟩⟩
  · have hselection := selection_of_reports h
    have hsublist := Snapshots.sublist_map_name_selected
      (fun name r hget => ((get?_run kind table acts).mp hget).1) (distinct names)
    refine ⟨distinct names, Snapshots.selected (distinct names) t.snapshots, hselection, ?_,
      fun _ => mem_distinct, nodup_distinct names, pairwise_idxOf_distinct names, fun r => ?_,
      (nodup_distinct names).sublist hsublist, hsublist⟩
    · rw [selectedResources, hselection]
      rfl
    · simp only [Snapshots.mem_selected, mem_distinct, t, get?_run]
      constructor
      · rintro ⟨name, hmem, rfl, hlast⟩
        exact ⟨hmem, hlast⟩
      · rintro ⟨hmem, hlast⟩
        exact ⟨_, hmem, rfl, hlast⟩
  · have hselection := selection_of_unavailable h
    rw [selectedResources, hselection]
    exact ⟨rfl, rfl⟩

/-- A table that reports one list after another, and is gone afterwards. -/
def scripted : TableKind (List (List String)) where
  checked
    | [] => (.error .unavailable, [])
    | names :: rest => (.ok names, rest)
  uncheck
    | [] => (.error .unavailable, [])
    | _ :: rest => (.ok (), rest)

/-- A printer is recorded twice, a board is recorded and dropped, and the table reports both, one
twice, and a scanner that was never recorded. Then it is gone. -/
theorem selection_of_run_scripted :
    let printer : Resource := { name := "printer" }
    let locked : Resource := { name := "printer", isLocked := true }
    let board : Resource := { name := "board" }
    let acts : List (Act (List (List String))) := [
      .record printer, .record board, .attach (some [["board"], []]), .clear, .record locked,
      .meanwhile ([["scanner", "printer", "board", "printer"]] ++ ·), .forget "board"]
    let t := run scripted {} acts
    (∃ selection resources,
        (t.selection scripted).1 = .ok selection ∧
          (t.selectedResources scripted).1 = .ok resources ∧
          "board" ∈ selection ∧ selection.Nodup ∧
          locked ∈ resources ∧ printer ∉ resources ∧ board ∉ resources) ∧
      ∃ t', t' = run scripted {} (acts ++ [.ask, .clear]) ∧
        (t'.selection scripted).1 = .ok [] ∧ (t'.cleared scripted).1 = .ok () := by
  intro printer locked board acts t
  obtain ⟨hreports, -⟩ := selection_of_run scripted none acts
  obtain ⟨selection, resources, hselection, hresources, hmem, hnodup, -, hlast, -⟩ :=
    hreports ["scanner", "printer", "board", "printer"] ⟨_, _, rfl, rfl⟩
  obtain ⟨-, hgone, hcleared, -⟩ := selection_of_run scripted none (acts ++ [.ask, .clear])
  have hfound : ∀ r name, Snapshots.get? name t.snapshots = some r ↔
      r.name = name ∧ RecordedLast acts r := fun _ _ => get?_run scripted none acts
  have hunavailable : ∀ {α : Type} (ask : _ → Except SourceFailure α × _),
      ask [] = (.error .unavailable, []) →
        (run scripted {} (acts ++ [.ask, .clear])).Unavailable ask := by
    rintro α ask hask _ ⟨⟩
    exact ⟨_, hask⟩
  refine ⟨⟨selection, resources, hselection, hresources, (hmem _).mpr (by decide), hnodup,
    (hlast _).mpr ?_, fun h => ?_, fun h => ?_⟩, _, rfl, (hgone (hunavailable _ rfl)).1,
    hcleared (hunavailable _ rfl)⟩
  · exact ⟨by decide, ((hfound locked "printer").mp rfl).2⟩
  · have hold := (hfound printer "printer").mpr ⟨rfl, ((hlast _).mp h).2⟩
    exact absurd (congrArg (Option.map Resource.isLocked) hold) (by decide)
  · have hdropped := (hfound board "board").mpr ⟨rfl, ((hlast _).mp h).2⟩
    exact absurd (congrArg Option.isSome hdropped) (by decide)

end Tracker

end Lockable
