import Lockable.Proofs.ActionBar

/-!
# What the bar shows

A `Panel` is an action bar beside the table that it asks. Anything may be done to it in any order:
permissions are loaded, rows are reported, buttons are bound, snapshots come and go, the table is
changed behind the bar's back or breaks, and so do the permissions of the session.

Which buttons are shown is decided by the last load that **returned**, and by nothing else. A load
that fails hides and shows nothing, permissions that drift under the bar do not either, and a
recomputation moves a button only between enabled and disabled. From the first load that returns or
the first binding on, the buttons on the screen are what the states say; a button for administering,
which the bar has no state for, stays as it was bound.
-/

namespace Lockable

/-- An action bar beside the table that it asks, if there is one. -/
structure Panel where
  bar : ActionBar := {}
  source : Option Source := none

namespace Panel

/-- Something that is done to a panel. -/
inductive Act where
  /-- Permissions are loaded into the bar. -/
  | load (raw : Json)
  /-- A row is reported as checked or unchecked. -/
  | change (r : Resource) (checked : Bool)
  /-- The bar is computed anew. -/
  | refresh
  /-- Other buttons are put on the screen. -/
  | bind (handles : List (Capability × ButtonHandle))
  /-- A snapshot is recorded. -/
  | record (r : Resource)
  /-- A snapshot is dropped. -/
  | forget (name : String)
  /-- The selection is cleared. -/
  | clear
  /-- Another table is attached, or none, or the table has other rows checked or other faults. -/
  | attach (source : Option Source)
  /-- Permissions are loaded behind the bar's back. -/
  | grant (raw : Json)
  /-- All permissions are dropped behind the bar's back. -/
  | revoke

/-- Does it: the panel afterwards and the outcome. -/
def act (p : Panel) : Act → Panel × Except Failure Unit
  | .load raw =>
    let ((bar, source), outcome) := p.bar.load raw p.source
    ({ bar, source }, outcome)
  | .change r checked =>
    let (bar, outcome) := p.bar.selectionChanged r checked p.source
    ({ p with bar }, outcome)
  | .refresh =>
    let (bar, outcome) := p.bar.refresh p.source
    ({ p with bar }, outcome)
  | .bind handles => ({ p with bar := p.bar.bind handles }, .ok ())
  | .record r => ({ p with bar := p.bar.record r }, .ok ())
  | .forget name => ({ p with bar := p.bar.forget name }, .ok ())
  | .clear =>
    match Source.cleared p.source with
    | .ok source => ({ p with source }, .ok ())
    | .error e => (p, .error e)
  | .attach source => ({ p with source }, .ok ())
  | .grant raw =>
    match Permissions.derive raw with
    | .ok permissions => ({ p with bar := { p.bar with permissions } }, .ok ())
    | .error e => (p, .error e)
  | .revoke => ({ p with bar := { p.bar with permissions := .none } }, .ok ())

/-- What was done to a panel, the last first, each act with its outcome. -/
abbrev Past : Type := List (Act × Except Failure Unit)

/-- The panel is **reached** from a fresh bar with these buttons, beside any table, by what was
done, whether it succeeded or failed. -/
inductive Reached (handles : List (Capability × ButtonHandle)) : Past → Panel → Prop
  | fresh (source : Option Source) : Reached handles [] { bar := { handles }, source }
  | act {past : Past} {p : Panel} (h : Reached handles past p) (a : Act) :
      Reached handles ((a, (p.act a).2) :: past) (p.act a).1

namespace Past

/-- The permissions of the last load that returned; none at all before the first. -/
def loaded : Past → Permissions
  | [] => .none
  | (.load raw, .ok ()) :: past => (Permissions.derive raw).toOption.getD (loaded past)
  | _ :: past => loaded past

/-- The buttons as they were bound last. -/
def bound (handles : List (Capability × ButtonHandle)) : Past → List (Capability × ButtonHandle)
  | [] => handles
  | (.bind handles, _) :: _ => handles
  | _ :: past => bound handles past

/-- Some load has returned, or some buttons have been bound. -/
def Synchronised : Past → Prop
  | [] => False
  | (.load _, .ok ()) :: _ => True
  | (.bind _, _) :: _ => True
  | _ :: past => Synchronised past

end Past

/-! ### What an act preserves -/

variable {handles bound : List (Capability × ButtonHandle)} {past : Past} {p : Panel}
  {loaded : Permissions} {synchronised : Prop} {bar after : ActionBar}

/-- What holds of a bar where `loaded` are the permissions of the last load that returned and
`bound` are the buttons as they were bound last. -/
structure Consistent (loaded : Permissions) (bound : List (Capability × ButtonHandle))
    (synchronised : Prop) (bar : ActionBar) : Prop where
  hidden : ∀ b, bar.states.get b = .hidden ↔ loaded.allows b.capability = false
  noteVisible : bar.noteVisible = true ↔ bar.states.get .editNote ≠ .hidden
  shown : synchronised → bar.Shown
  buttons : ActionBar.SameButtons bound bar.handles

namespace Consistent

/-- A fresh bar shows nothing, and nothing has been loaded. -/
theorem fresh (handles : List (Capability × ButtonHandle)) :
    Consistent .none handles False { handles } where
  hidden b := iff_of_true (ButtonStates.get_ofFn _ b) rfl
  noteVisible := iff_of_false Bool.false_ne_true fun h => h rfl
  shown := False.elim
  buttons := .refl handles

/-- What only moves buttons between enabled and disabled changes nothing of it. -/
theorem adjust (h : Consistent loaded bound synchronised bar) (hadj : bar.Adjusts after) :
    Consistent loaded bound synchronised after where
  hidden b := (hadj.hidden b).trans (h.hidden b)
  noteVisible := by rw [hadj.noteVisible, h.noteVisible, ne_eq, ne_eq, hadj.hidden]
  shown hsync := hadj.shown (h.shown hsync)
  buttons := h.buttons.trans hadj.buttons

/-- After a load that returns, its permissions are the ones that count. -/
theorem load (h : Consistent loaded bound synchronised bar) {q : Permissions}
    (hloaded : bar.Loaded q after) : Consistent q bound True after := by
  have hhidden : ∀ b, after.states.get b = .hidden ↔ q.allows b.capability = false := by
    intro b
    rw [hloaded.states, ActionBar.baseline]
    cases q.allows b.capability <;> decide
  refine ⟨hhidden, ?_, fun _ => hloaded.shown, h.buttons.trans hloaded.buttons⟩
  rw [hloaded.noteVisible, ne_eq, hhidden, Bool.not_eq_false]
  rfl

/-- Binding shows the states as they are on the new buttons. -/
theorem bind (h : Consistent loaded bound synchronised bar)
    (handles : List (Capability × ButtonHandle)) :
    Consistent loaded handles True (bar.bind handles) := by
  have hget : ∀ b, (bar.bind handles).states.get b = bar.states.get b := fun b => by
    rw [ActionBar.bind, ActionBar.get_update, Option.getD_some]
  exact {
    hidden := fun b => by rw [hget, h.hidden]
    noteVisible := by
      rw [hget]
      exact h.noteVisible
    shown := fun _ => ActionBar.shown_update_all _ _
    buttons := .update { bar with handles } _ }

/-- **One act** keeps the bar consistent with its past. -/
theorem act (h : Consistent past.loaded (past.bound handles) past.Synchronised p.bar) (a : Act) :
    Consistent (Past.loaded ((a, (p.act a).2) :: past))
      (Past.bound handles ((a, (p.act a).2) :: past))
      (Past.Synchronised ((a, (p.act a).2) :: past)) (p.act a).1.bar := by
  cases a with
  | load raw =>
    rw [Panel.act]
    rcases ActionBar.load_cases raw p.source p.bar with ⟨e, he⟩ | ⟨q, e, he⟩ |
      ⟨q, cleared, after, hq, -, he, hloaded⟩ <;> rw [he]
    · exact h
    · -- the session has the new permissions, but the bar has not been computed from them
      exact ⟨h.hidden, h.noteVisible, h.shown, h.buttons⟩
    · have hlast : Past.loaded ((.load raw, .ok ()) :: past) = q := by
        rw [Past.loaded, hq]
        rfl
      rw [hlast]
      exact h.load hloaded
  | change r checked =>
    have hrecord : Consistent past.loaded (past.bound handles) past.Synchronised (p.bar.record r) :=
      ⟨h.hidden, h.noteVisible, h.shown, h.buttons⟩
    exact hrecord.adjust (ActionBar.adjusts_selectionChanged r checked p.source p.bar)
  | refresh => exact h.adjust (ActionBar.adjusts_refresh p.source p.bar)
  | bind handles' => exact h.bind handles'
  | record r => exact ⟨h.hidden, h.noteVisible, h.shown, h.buttons⟩
  | forget name => exact ⟨h.hidden, h.noteVisible, h.shown, h.buttons⟩
  | clear =>
    rw [Panel.act]
    split <;> exact h
  | attach source => exact h
  | grant raw =>
    rw [Panel.act]
    split
    · exact ⟨h.hidden, h.noteVisible, h.shown, h.buttons⟩
    · exact h
  | revoke => exact ⟨h.hidden, h.noteVisible, h.shown, h.buttons⟩

end Consistent

/-- **Every panel that is reached** is consistent with its past. -/
theorem Reached.consistent (h : Reached handles past p) :
    Consistent past.loaded (past.bound handles) past.Synchronised p.bar := by
  induction h with
  | fresh source => exact .fresh handles
  | act _ a ih => exact ih.act a

/-! ### The law -/

/-- **What is shown is what the last load that returned permits.** On every panel that is reached, a
button is hidden exactly if the permissions of that load deny it, and notes can be edited exactly if
the button for that is not hidden. The buttons that were bound last are on the screen. Once a load
has returned or buttons have been bound, each shows its state, and one for administering is always
as it was bound. -/
theorem visible_iff_permitted (h : Reached handles past p) :
    (∀ b, p.bar.states.get b = .hidden ↔ past.loaded.allows b.capability = false) ∧
    (p.bar.noteVisible = true ↔ p.bar.states.get .editNote ≠ .hidden) ∧
    p.bar.handles.map Prod.fst = (past.bound handles).map Prod.fst ∧
    (past.Synchronised → ∀ b handle, (b.capability, handle) ∈ p.bar.handles →
      (handle.display = true ↔ p.bar.states.get b ≠ .hidden) ∧
      (handle.disabled = true ↔ p.bar.states.get b ≠ .enabled)) ∧
    ∀ handle, (.administer, handle) ∈ p.bar.handles ↔
      (.administer, handle) ∈ past.bound handles := by
  have hc := h.consistent
  refine ⟨hc.hidden, hc.noteVisible, hc.buttons.capabilities, fun hsync b handle hmem => ?_,
    fun handle => ?_⟩
  · have hstate : handle = (p.bar.states.get b).handle :=
      hc.shown hsync _ hmem b (BarButton.ofCapability?_capability b)
    rw [hstate]
    exact ⟨bne_iff_ne, bne_iff_ne⟩
  · have hfilter : ∀ l : List (Capability × ButtonHandle),
        (Capability.administer, handle) ∈ l ↔
          (Capability.administer, handle) ∈ l.filter (·.1 = .administer) := fun l => by simp
    rw [hfilter, hc.buttons.administer, ← hfilter]

/-- Unlocking is granted, the board is checked, the table breaks, and a load that would grant
stealing fails half way. Stealing stays hidden, and the button for administering is as it was. -/
theorem visible_iff_permitted_broken_table :
    let buttons : List (Capability × ButtonHandle) :=
      [(.steal, {}), (.unlock, {}), (.administer, {})]
    let acts : List Act := [
      .load (.object [("steal", .bool true)]),
      .attach (some { checked := ["board"], failure := some (.broken "lost") }),
      .change { name := "board", isLocked := true } true,
      .attach (some { checked := ["board"] }),
      .load (.object [(" unlock", .bool true)])]
    ∃ past p, Reached buttons past p ∧ past.map Prod.fst = acts ∧
      past.map (·.2.isOk) = [false, true, true, true, true] ∧ past.Synchronised ∧
      p.bar.permissions.allows .steal = true ∧ p.bar.states.get (.action .steal) = .hidden ∧
      p.bar.handles = [(.steal, ⟨true, false⟩), (.unlock, ⟨false, true⟩), (.administer, {})] := by
  intro buttons acts
  have hfresh : Reached buttons [] { bar := { handles := buttons } } := .fresh none
  have hreached := ((((hfresh.act
    (.load (.object [(" unlock", .bool true)]))).act
    (.attach (some { checked := ["board"] }))).act
    (.change { name := "board", isLocked := true } true)).act
    (.attach (some { checked := ["board"], failure := some (.broken "lost") }))).act
    (.load (.object [("steal", .bool true)]))
  refine ⟨_, _, hreached, rfl, by decide +kernel, trivial, by decide +kernel, ?_, by decide +kernel⟩
  exact ((visible_iff_permitted hreached).1 (.action .steal)).mpr (by decide +kernel)

end Panel

end Lockable
