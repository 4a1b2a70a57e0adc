import Mathlib.Data.List.Induction
import Lockable.Settings.Store

/-!
# Keeping settings

A store in use: its file changes, settings are loaded and asked for, watchers register and are told
of reloads, in any order and any number. A `Keeper` is the store together with its surroundings, in
which the files lie and the watchers act, and with what **happened** to it so far: each reading of
the file, and each watcher that was told something.

Over a whole run the store holds the settings of the last reading that succeeded
(`Keeper.lastRead`) and the watchers in the order in which they registered (`Keeper.Kept`). A
watcher that fails is passed over: the others are told all the same, and the reload succeeds.
-/

namespace Lockable

/-- What happens to a store in use: its file is read, or a watcher is told of settings. -/
inductive Keeper.Event (ω : Type) where
  | read (outcome : Except Failure Settings)
  | told (watcher : ω) (settings : Settings)

/-- A store in use, with its surroundings and with what happened so far. -/
structure Keeper (ω τ : Type) where
  store : SettingsStore ω
  world : τ
  past : List (Keeper.Event ω) := []

namespace Keeper

variable {ω τ : Type}

/-- How things are around a store: which files there are, and what a watcher does that is told of
settings. It may change the files, and may fail, but does not reach the store. -/
structure Around (ω τ : Type) where
  files : τ → Files
  tell : ω → Settings → τ → Except Failure Unit × τ

variable (around : Around ω τ)

/-- Loads the settings from the file as it is. -/
def load (k : Keeper ω τ) : Keeper ω τ × Except Failure Settings :=
  match k.store.load (around.files k.world) with
  | (store, outcome) => ({ k with store, past := k.past ++ [.read outcome] }, outcome)

/-- Tells watchers of settings, one after another. A failure of one of them is passed over, unless
the operation is called off. -/
def notify (s : Settings) : List ω → Keeper ω τ → Keeper ω τ × Except Failure Unit
  | [], k => (k, .ok ())
  | w :: rest, k =>
    match around.tell w s k.world with
    | (outcome, world) =>
      let k := { k with world, past := k.past ++ [.told w s] }
      match outcome with
      | .error .cancelled => (k, .error .cancelled)
      | _ => notify s rest k

/-- Loads the settings anew and tells the watchers. -/
def reload (k : Keeper ω τ) : Keeper ω τ × Except Failure Settings :=
  match k.load around with
  | (k, .error e) => (k, .error e)
  | (k, .ok s) =>
    match notify around s k.store.watchers k with
    | (k, outcome) => (k, outcome.map fun _ => s)

/-- The settings, loaded only if there are none. -/
def get (k : Keeper ω τ) : Keeper ω τ × Except Failure Settings :=
  match k.store.settings with
  | some s => (k, .ok s)
  | none => k.load around

/-- One thing done to a store or around it. -/
inductive Act (ω τ : Type) where
  | load
  | reload
  | get
  | register (watcher : ω)
  /-- The surroundings change, and the files with them. -/
  | meanwhile (change : τ → τ)

/-- Does one thing: the store afterwards and the outcome, with settings if there are any. -/
def act (k : Keeper ω τ) : Act ω τ → Keeper ω τ × Except Failure (Option Settings)
  | .load => ((k.load around).1, (k.load around).2.map some)
  | .reload => ((k.reload around).1, (k.reload around).2.map some)
  | .get => ((k.get around).1, (k.get around).2.map some)
  | .register watcher => ({ k with store := k.store.register watcher }, .ok none)
  | .meanwhile change => ({ k with world := change k.world }, .ok none)

/-- Does one thing after another. -/
def run (k : Keeper ω τ) (acts : List (Act ω τ)) : Keeper ω τ :=
  acts.foldl (fun k a => (k.act around a).1) k

/-! ### What one act does -/

variable {around} {k : Keeper ω τ} {s : Settings} {e : Failure}

theorem load_of_read_eq_ok (h : k.store.read (around.files k.world) = .ok s) :
    k.load around = ({ k with
      store := { k.store with settings := some s }
      past := k.past ++ [.read (.ok s)] }, .ok s) := by
  rw [load, SettingsStore.load, h]

theorem load_of_read_eq_error (h : k.store.read (around.files k.world) = .error e) :
    k.load around = ({ k with past := k.past ++ [.read (.error e)] }, .error e) := by
  rw [load, SettingsStore.load, h]

/-- **Each watcher is told once**, in their order, if none calls the operation off. -/
theorem notify_eq (h : ∀ w t, (around.tell w s t).1 ≠ .error .cancelled) (watchers : List ω)
    (k : Keeper ω τ) :
    notify around s watchers k = ({ k with
      world := watchers.foldl (fun t w => (around.tell w s t).2) k.world
      past := k.past ++ watchers.map fun w => .told w s }, .ok ()) := by
  induction watchers generalizing k with
  | nil => simp [notify]
  | cons w rest ih =>
    have hw := h w k.world
    rw [notify]
    rcases htell : around.tell w s k.world with ⟨outcome, world⟩
    rw [htell] at hw
    dsimp only at hw ⊢
    split
    · exact absurd rfl hw
    · rw [ih, List.foldl_cons, htell, List.map_cons, List.append_assoc, List.singleton_append]

theorem reload_of_read_eq_error (h : k.store.read (around.files k.world) = .error e) :
    k.reload around = ({ k with past := k.past ++ [.read (.error e)] }, .error e) := by
  rw [reload, load_of_read_eq_error h]

/-- A reload of which the load succeeds succeeds, whichever watchers fail. -/
theorem reload_of_read_eq_ok (hraises : ∀ w t, (around.tell w s t).1 ≠ .error .cancelled)
    (h : k.store.read (around.files k.world) = .ok s) :
    k.reload around = ({
      store := { k.store with settings := some s }
      world := k.store.watchers.foldl (fun t w => (around.tell w s t).2) k.world
      past := k.past ++ .read (.ok s) :: k.store.watchers.map fun w => .told w s }, .ok s) := by
  rw [reload, load_of_read_eq_ok h]
  dsimp only
  rw [notify_eq hraises, List.append_assoc]
  rfl

theorem get_of_settings (h : k.store.settings = some s) : k.get around = (k, .ok s) := by
  rw [get, h]

theorem get_of_no_settings (h : k.store.settings = none) : k.get around = k.load around := by
  rw [get, h]

/-! ### Benches -/

section Bench

/-- The surroundings of a bench: its files, and what the watchers that do not fail have noted. -/
def benchAround : Around Watcher (Files × List (String × Option String)) where
  files := Prod.fst
  tell w s t :=
    if w.broken then (.error (.broken w.name), t)
    else (.ok (), (t.1, t.2 ++ [(w.name, s.session.user)]))

/-- A store on a bench. -/
def toBench (k : Keeper Watcher (Files × List (String × Option String))) : StoreBench where
  files := k.world.1
  store := k.store
  seen := k.world.2

/-- What a step on a bench does to the store or around it. -/
def ofStep : StoreBench.Step → Act Watcher (Files × List (String × Option String))
  | .load => .load
  | .reload => .reload
  | .get => .get
  | .write path text => .meanwhile fun t => (t.1.write path (Utf8.encode text.toList), t.2)
  | .delete path => .meanwhile fun t => (t.1.delete path, t.2)
  | .register watcher => .register watcher

theorem benchAround_raises (w : Watcher) (s : Settings)
    (t : Files × List (String × Option String)) :
    (benchAround.tell w s t).1 ≠ .error .cancelled := by
  rw [benchAround]
  dsimp only
  split <;> nofun

/-- What is noted of settings on a bench. -/
theorem foldl_tell_bench (s : Settings) (watchers : List Watcher)
    (t : Files × List (String × Option String)) :
    watchers.foldl (fun t w => (benchAround.tell w s t).2) t =
      (t.1, t.2 ++ StoreBench.notes s watchers) := by
  induction watchers generalizing t with
  | nil => simp [StoreBench.notes]
  | cons w rest ih =>
    rw [List.foldl_cons, ih, benchAround, StoreBench.notes, StoreBench.notes]
    cases hw : w.broken <;> simp [hw]

/-- **A bench is a keeper**: its steps are acts. -/
theorem step_toBench (k : Keeper Watcher (Files × List (String × Option String)))
    (step : StoreBench.Step) :
    (toBench k).step step =
      (toBench (k.act benchAround (ofStep step)).1, (k.act benchAround (ofStep step)).2) := by
  cases step with
  | load => rfl
  | reload =>
    simp only [StoreBench.step, ofStep, act, SettingsStore.reload, SettingsStore.load]
    rcases hread : k.store.read k.world.1 with e | s
    · rw [reload_of_read_eq_error hread]
      simp [toBench, hread, Except.map]
    · rw [reload_of_read_eq_ok (benchAround_raises · s) hread, foldl_tell_bench]
      simp [toBench, hread, Except.map]
  | get =>
    simp only [StoreBench.step, ofStep, act, SettingsStore.get, get, toBench]
    cases hsettings : k.store.settings with
    | none => rfl
    | some s => rfl
  | write path text => rfl
  | delete path => rfl
  | register watcher => rfl

/-- The bench at the end of a run is the keeper at the end of the acts. -/
theorem run_toBench (k : Keeper Watcher (Files × List (String × Option String)))
    (steps : List StoreBench.Step) :
    (((toBench k).run steps).map Prod.fst).getLastD (toBench k) =
      toBench (run benchAround k (steps.map ofStep)) := by
  induction steps generalizing k with
  | nil => rfl
  | cons step rest ih =>
    rw [StoreBench.run, step_toBench, List.map_cons, List.getLastD_cons, ih]
    rfl

end Bench

/-! ### Whole runs -/

/-- The settings of the last reading that succeeded. -/
def lastRead (past : List (Event ω)) : Option Settings :=
  past.reverse.findSome? fun
    | .read (.ok s) => some s
    | _ => none

/-- The watchers that registered, in order. -/
def registered (acts : List (Act ω τ)) : List ω :=
  acts.filterMap fun
    | .register w => some w
    | _ => none

/-- The store is **kept** as the past says. -/
structure Kept (path : String) (watchers : List ω) (k : Keeper ω τ) : Prop where
  path : k.store.path = path
  settings : k.store.settings = lastRead k.past
  watchers : k.store.watchers = watchers

theorem lastRead_concat_read_ok (past : List (Event ω)) (s : Settings) :
    lastRead (past ++ [.read (.ok s)]) = some s := by
  rw [lastRead, List.reverse_concat, List.findSome?_cons]

theorem lastRead_concat_read_error (past : List (Event ω)) (e : Failure) :
    lastRead (past ++ [.read (.error e)]) = lastRead past := by
  rw [lastRead, List.reverse_concat, List.findSome?_cons, lastRead]

theorem lastRead_concat_told (past : List (Event ω)) (w : ω) (s : Settings) :
    lastRead (past ++ [.told w s]) = lastRead past := by
  rw [lastRead, List.reverse_concat, List.findSome?_cons, lastRead]

theorem registered_concat (acts : List (Act ω τ)) (a : Act ω τ) :
    registered (acts ++ [a]) = registered acts ++ registered [a] :=
  List.filterMap_append

namespace Kept

variable {path : String} {watchers : List ω}

theorem load (h : Kept path watchers k) : Kept path watchers (k.load around).1 := by
  rcases hread : k.store.read (around.files k.world) with e | s
  · rw [load_of_read_eq_error hread]
    exact ⟨h.path, h.settings.trans (lastRead_concat_read_error _ _).symm, h.watchers⟩
  · rw [load_of_read_eq_ok hread]
    exact ⟨h.path, (lastRead_concat_read_ok _ _).symm, h.watchers⟩

/-- Telling watchers, however it ends, leaves the store and reads nothing. -/
theorem notify (h : Kept path watchers k) (s : Settings) (ws : List ω) :
    Kept path watchers (k.notify around s ws).1 := by
  induction ws generalizing k with
  | nil => exact h
  | cons w rest ih =>
    have htold (world : τ) :
        Kept path watchers { k with world, past := k.past ++ [.told w s] } :=
      ⟨h.path, h.settings.trans (lastRead_concat_told _ _ _).symm, h.watchers⟩
    rw [Keeper.notify]
    dsimp only
    split
    · exact htold _
    · exact ih (htold _)

theorem reload (h : Kept path watchers k) : Kept path watchers (k.reload around).1 := by
  have hload : Kept path watchers (k.load around).1 := h.load
  rw [Keeper.reload]
  rcases hk : k.load around with ⟨k', e | s⟩
  · rw [hk] at hload
    exact hload
  · rw [hk] at hload
    exact hload.notify s _

theorem get (h : Kept path watchers k) : Kept path watchers (k.get around).1 := by
  rw [Keeper.get]
  split
  · exact h
  · exact h.load

/-- **Each act keeps the store**, one case for each. -/
theorem act (h : Kept path watchers k) (a : Act ω τ) :
    Kept path (watchers ++ registered [a]) (k.act around a).1 := by
  cases a with
  | load => exact (List.append_nil watchers).symm ▸ h.load
  | reload => exact (List.append_nil watchers).symm ▸ h.reload
  | get => exact (List.append_nil watchers).symm ▸ h.get
  | register w =>
    exact ⟨h.path, h.settings, congrArg (· ++ [w]) h.watchers⟩
  | meanwhile change =>
    exact (List.append_nil watchers).symm ▸ ⟨h.path, h.settings, h.watchers⟩

end Kept

/-- **Every run keeps the store.** -/
theorem kept_run (around : Around ω τ) (path : String) (world : τ) (acts : List (Act ω τ)) :
    Kept path (registered acts) (run around { store := { path }, world } acts) := by
  induction acts using List.reverseRecOn with
  | nil => exact ⟨rfl, rfl, rfl⟩
  | append_singleton acts a ih =>
    rw [run, List.foldl_append, registered_concat]
    exact ih.act a

/-- **The settings of the last load that succeeded are kept, and every reload tells every watcher.**
Take any run of a fresh store: the file changes, settings are loaded, loaded anew and asked for, and
watchers register, in any order and number; a watcher may do anything to the surroundings and may
fail, but does not call the operation off. At the end of the run

* the store holds the settings of the last reading that succeeded, and the watchers in the order in
  which they registered;
* who asks for the settings gets just these, and nothing is read; only if there are none they are
  loaded;
* a load or a reload that fails is noted, and nothing else has changed: no watcher was told
  anything;
* a reload of which the load succeeds gives the settings that it stores, and each watcher so far was
  told of just these once, in order, whichever failed. -/
theorem keeps_last_settings (around : Around ω τ)
    (hraises : ∀ w s t, (around.tell w s t).1 ≠ .error .cancelled) (path : String) (world : τ)
    (acts : List (Act ω τ)) :
    let k := run around { store := { path }, world } acts
    k.store = { path, settings := lastRead k.past, watchers := registered acts } ∧
    (∀ s, lastRead k.past = some s → k.act around .get = (k, .ok (some s))) ∧
    (lastRead k.past = none → k.act around .get = k.act around .load) ∧
    (∀ e, k.store.read (around.files k.world) = .error e →
      k.act around .load = ({ k with past := k.past ++ [.read (.error e)] }, .error e) ∧
      k.act around .reload = ({ k with past := k.past ++ [.read (.error e)] }, .error e)) ∧
    ∀ s, k.store.read (around.files k.world) = .ok s →
      k.act around .load = ({ k with
        store := { k.store with settings := some s }
        past := k.past ++ [.read (.ok s)] }, .ok (some s)) ∧
      k.act around .reload = ({
        store := { k.store with settings := some s }
        world := (registered acts).foldl (fun t w => (around.tell w s t).2) k.world
        past := k.past ++ .read (.ok s) :: (registered acts).map fun w => .told w s },
        .ok (some s)) := by
  intro k
  have hk : Kept path (registered acts) k := kept_run around path world acts
  refine ⟨?_, fun s hs => ?_, fun hnone => ?_, fun e he => ⟨?_, ?_⟩, fun s hs => ⟨?_, ?_⟩⟩
  · rw [← hk.path, ← hk.settings, ← hk.watchers]
  · rw [act, get_of_settings (hk.settings.trans hs)]
    rfl
  · rw [act, act, get_of_no_settings (hk.settings.trans hnone)]
  · rw [act, load_of_read_eq_error he]
    rfl
  · rw [act, reload_of_read_eq_error he]
    rfl
  · rw [act, load_of_read_eq_ok hs]
    rfl
  · rw [act, reload_of_read_eq_ok (hraises · s) hs, hk.watchers]
    rfl

/-- A load, a reload that fails, and a file for another user: asked for, the settings are those of
the load, and a reload tells the watcher behind one that fails of the other user. -/
theorem keeps_last_settings_alice :
    let text (user : String) := "server:\n  base_url: http://ci\nsession:\n  user: " ++ user ++ "\n"
    let write (text : String) : Act Watcher (Files × List (String × Option String)) :=
      ofStep (.write "lockdesk.yml" text)
    let acts := [write (text "alice"), .register ⟨"failing", true⟩, .load, write "- server",
      .reload, .register ⟨"title", false⟩, write (text "bob")]
    let k := run benchAround { store := { path := "lockdesk.yml" }, world := ({}, []) } acts
    ∃ alice bob : Settings, alice.session.user = some "alice" ∧ bob.session.user = some "bob" ∧
      k.act benchAround .get = (k, .ok (some alice)) ∧
      (k.act benchAround .reload).2 = .ok (some bob) ∧
      (k.act benchAround .reload).1.world.2 = [("title", some "bob")] := by
  intro text write acts
  have hkept := keeps_last_settings benchAround benchAround_raises "lockdesk.yml" ({}, []) acts
  -- the run is evaluated for what is seen of it below, and nowhere else
  generalize hk : run benchAround { store := { path := "lockdesk.yml" }, world := ({}, []) } acts =
    k at hkept ⊢
  obtain ⟨hlast, hread, hseen⟩ : (lastRead k.past).map (·.session.user) = some (some "alice") ∧
      (k.store.read k.world.1).map (·.session.user) = .ok (some "bob") ∧ k.world.2 = [] := by
    rw [← hk]
    decide +kernel
  obtain ⟨-, hget, -, -, hreload⟩ := hkept
  obtain ⟨alice, halice, huser⟩ := Option.map_eq_some_iff.mp hlast
  rcases hbob : k.store.read k.world.1 with e | bob
  · rw [hbob] at hread
    cases hread
  · rw [hbob] at hread
    obtain ⟨-, hreload⟩ := hreload bob hbob
    have hbob : bob.session.user = some "bob" := Except.ok.inj hread
    refine ⟨alice, bob, huser, hbob, hget alice halice, ?_, ?_⟩
    · exact congrArg Prod.snd hreload
    · rw [hreload, ← hbob]
      dsimp only
      rw [foldl_tell_bench, hseen]
      rfl

end Keeper

end Lockable
