import Lockable.Resource.Rules
import Lockable.Selection

/-!
# The action bar

Which buttons are shown and which can be clicked. A button the user has no permission for is
**hidden** when permissions are loaded and stays hidden until the next load. Every other button is
enabled when its action is valid for *each* selected resource, so that a batch never applies in
part, and disabled otherwise.

The bar works **step by step**: it enables what is shown, takes away what the toggled row does not
allow, then what each cached row does not allow, and stops as soon as no row action is left.
`ActionBar.gate` says the same at once, from the names, the snapshots and the permissions.

An operation returns the bar together with its outcome: when the table breaks in the middle, what
was done up to there stays done.
-/

namespace Lockable

/-- What can be seen of a button. -/
inductive ButtonState where
  | enabled
  | disabled
  | hidden
  deriving DecidableEq, Repr, Inhabited

/-- The word for the state of a button. -/
def ButtonState.word : ButtonState → String
  | .enabled => "enabled"
  | .disabled => "disabled"
  | .hidden => "hidden"

/-- A button of the bar. Administering only widens the others and has none. -/
inductive BarButton where
  | action (a : RowAction)
  | editNote
  deriving DecidableEq, Repr, Inhabited

namespace BarButton

/-- The buttons in the order of the bar. -/
def all : List BarButton := RowAction.all.map .action ++ [.editNote]

/-- Every button is in the list of all. -/
@[simp] theorem mem_all (b : BarButton) : b ∈ all := by
  cases b with
  | action a => cases a <;> decide
  | editNote => decide

/-- The capability that the button is for. -/
def capability : BarButton → Capability
  | .action a => a.capability
  | .editNote => .edit

/-- The button for a capability, if it has one. -/
def ofCapability? : Capability → Option BarButton
  | .edit => some .editNote
  | c => c.rowAction?.map .action

/-- A button is the button of its capability. -/
@[simp] theorem ofCapability?_capability (b : BarButton) :
    ofCapability? b.capability = some b := by
  cases b with
  | action a => cases a <;> rfl
  | editNote => rfl

end BarButton

/-- The state of every button. -/
structure ButtonStates where
  unlock : ButtonState
  steal : ButtonState
  reserve : ButtonState
  unreserve : ButtonState
  reassign : ButtonState
  reset : ButtonState
  editNote : ButtonState
  deriving DecidableEq, Repr, Inhabited

namespace ButtonStates

/-- The state of one button. -/
def get (s : ButtonStates) : BarButton → ButtonState
  | .action .unlock => s.unlock
  | .action .steal => s.steal
  | .action .reserve => s.reserve
  | .action .unreserve => s.unreserve
  | .action .reassign => s.reassign
  | .action .reset => s.reset
  | .editNote => s.editNote

/-- The states that a function gives. -/
def ofFn (f : BarButton → ButtonState) : ButtonStates where
  unlock := f (.action .unlock)
  steal := f (.action .steal)
  reserve := f (.action .reserve)
  unreserve := f (.action .unreserve)
  reassign := f (.action .reassign)
  reset := f (.action .reset)
  editNote := f .editNote

/-- Reading back what a function gave. -/
@[simp] theorem get_ofFn (f : BarButton → ButtonState) (b : BarButton) : (ofFn f).get b = f b := by
  cases b with
  | action a => cases a <;> rfl
  | editNote => rfl

/-- Two tables with the same entries are the same. -/
@[ext] theorem ext_get {s t : ButtonStates} (h : ∀ b, s.get b = t.get b) : s = t := by
  cases s; cases t
  simp only [mk.injEq]
  exact ⟨h (.action .unlock), h (.action .steal), h (.action .reserve), h (.action .unreserve),
    h (.action .reassign), h (.action .reset), h .editNote⟩

/-- The row actions that can be clicked, in the order of the bar. -/
def enabledActions (s : ButtonStates) : List RowAction :=
  RowAction.all.filter fun a => s.get (.action a) == .enabled

end ButtonStates

/-- A button on the screen, as far as the bar has to do with it. -/
structure ButtonHandle where
  disabled : Bool := false
  display : Bool := true
  deriving DecidableEq, Repr, Inhabited

/-- How a button on the screen shows its state. -/
def ButtonState.handle (s : ButtonState) : ButtonHandle :=
  ⟨s != .enabled, s != .hidden⟩

/-- The action bar with all that its decisions rest on: the permissions of the session, the cached
snapshots, the state of every button, the buttons on the screen, and whether notes can be edited. -/
structure ActionBar where
  permissions : Permissions := .none
  snapshots : Snapshots := []
  states : ButtonStates := .ofFn fun _ => .hidden
  handles : List (Capability × ButtonHandle) := []
  noteVisible : Bool := false

namespace ActionBar

/-! ### Setting states -/

/-- Sets the buttons for which `change` gives a state, and their counterparts on the screen; the
other buttons are not touched. -/
def update (change : BarButton → Option ButtonState) (bar : ActionBar) : ActionBar :=
  { bar with
    states := .ofFn fun b => (change b).getD (bar.states.get b)
    handles := bar.handles.map fun e =>
      match (BarButton.ofCapability? e.1).bind change with
      | some s => (e.1, s.handle)
      | none => e }

/-- Attaches buttons on the screen and shows the current states on them. -/
def bind (handles : List (Capability × ButtonHandle)) (bar : ActionBar) : ActionBar :=
  update (fun b => some (bar.states.get b)) { bar with handles }

/-- The states right after a load: hidden without permission, else disabled. -/
def baseline (p : Permissions) (b : BarButton) : ButtonState :=
  if p.allows b.capability then .disabled else .hidden

/-- Enables every button that is shown. -/
def enableShown (bar : ActionBar) : ActionBar :=
  bar.update fun b => if bar.states.get b = .hidden then none else some .enabled

/-- Disables every button that is shown. -/
def disableShown (bar : ActionBar) : ActionBar :=
  bar.update fun b => if bar.states.get b = .hidden then none else some .disabled

/-- Disables every shown row action that is not valid for the resource. -/
def restrict (r : Resource) (bar : ActionBar) : ActionBar :=
  bar.update fun
    | .action a =>
      if r.allows bar.permissions a ∨ bar.states.get (.action a) = .hidden then none
      else some .disabled
    | .editNote => none

/-- Whether no row action is left to take away. -/
def exhausted (bar : ActionBar) : Bool :=
  RowAction.all.all fun a => bar.states.get (.action a) != .enabled

/-- Restricts the bar to one resource after another until no row action is left; whether that came
to pass. -/
def restrictAll : List Resource → ActionBar → ActionBar × Bool
  | [], bar => (bar, false)
  | r :: rest, bar =>
    let bar := bar.restrict r
    if bar.exhausted then (bar, true) else restrictAll rest bar

/-! ### Operations -/

/-- The snapshots of the selected rows. -/
def selectedResources (source : Option Source) (bar : ActionBar) :
    Except Failure (List Resource) :=
  (Source.selection source).map (Snapshots.selected · bar.snapshots)

/-- Takes away what the selected rows do not allow, and everything when none is selected. -/
def recompute (source : Option Source) (bar : ActionBar) : ActionBar × Except Failure Unit :=
  match Source.selection source with
  | .error e => (bar, .error e)
  | .ok names =>
    match restrictAll (Snapshots.selected names bar.snapshots) bar with
    | (bar, true) => (bar, .ok ())
    | (bar, false) => (if names.isEmpty then bar.disableShown else bar, .ok ())

/-- Loads a permission mapping, clears the selection and goes back to the baseline. What comes back
beside the bar is the table as it is afterwards. -/
def load (raw : Json) (source : Option Source) (bar : ActionBar) :
    (ActionBar × Option Source) × Except Failure Unit :=
  match Permissions.derive raw with
  | .error e => ((bar, source), .error e)
  | .ok permissions =>
    let bar := { bar with permissions }
    match Source.cleared source with
    | .error e => ((bar, source), .error e)
    | .ok source =>
      let bar := bar.update fun b => some (baseline permissions b)
      match bar.recompute source with
      | (bar, .error e) => ((bar, source), .error e)
      | (bar, .ok ()) =>
        (({ bar with noteVisible := permissions.allows .edit }, source), .ok ())

/-- Records a snapshot. -/
def record (r : Resource) (bar : ActionBar) : ActionBar :=
  { bar with snapshots := Snapshots.record r bar.snapshots }

/-- Drops a snapshot. -/
def forget (name : String) (bar : ActionBar) : ActionBar :=
  { bar with snapshots := Snapshots.forget name bar.snapshots }

/-- The row of this resource was checked or unchecked. -/
def selectionChanged (r : Resource) (checked : Bool) (source : Option Source) (bar : ActionBar) :
    ActionBar × Except Failure Unit :=
  let bar := (bar.record r).enableShown
  if checked then
    let bar := bar.restrict r
    if bar.exhausted then (bar, .ok ()) else bar.recompute source
  else bar.recompute source

/-- Recomputes the bar from the snapshots of the selected rows. -/
def refresh (source : Option Source) (bar : ActionBar) : ActionBar × Except Failure Unit :=
  bar.enableShown.recompute source

/-- The state of the button for a capability, which must have one. -/
def state (c : Capability) (bar : ActionBar) : Except Failure ButtonState :=
  match BarButton.ofCapability? c with
  | some b => .ok (bar.states.get b)
  | none => .error (.noButton c)

/-! ### The gate -/

/-- The state that a shown button should have, at once: a row action is enabled when something is
selected and every snapshot of the selection allows it, editing a note when something is
selected. -/
def gate (p : Permissions) (names : List String) (resources : List Resource) :
    BarButton → ButtonState
  | .action a =>
    if !names.isEmpty && resources.all (·.allows p a) then .enabled else .disabled
  | .editNote => if names.isEmpty then .disabled else .enabled

end ActionBar

/-- The capability that the identifier of a button stands for; none for other buttons. -/
def Capability.ofButtonId (id : Option String) : Except Failure (Option Capability) :=
  match id.bind Capability.buttonSpelling? with
  | none => .ok none
  | some spelling =>
    match Capability.read? (.text spelling) with
    | some c => .ok (some c)
    | none => .error (.unknownCapability (Capability.canonicalName (.text spelling)))

/-- The capability that a value spells, which must spell one. -/
def Capability.read (value : Json) : Except Failure Capability :=
  match Capability.read? value with
  | some c => .ok c
  | none => .error (.unknownCapability (Capability.canonicalName value))

end Lockable
