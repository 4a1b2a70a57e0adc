import Lockable.Proofs.Checking
import Lockable.Proofs.Command.Part
import Lockable.Proofs.Permissions

/-!
# The commands ask the bar

`dispatch` checks the named resources on an action bar one after another, in their order and as
often as they are named, and goes by the button at the end. Here this is shown to come to the rules
themselves: the button is enabled exactly when the last listed entry of **every** name allows the
action, which is also what `resources` goes by for each entry on its own.

Permissions do not come in a second time, although a button without permission is hidden: the rules
never allow what is not permitted (`Resource.permitted_of_allows`).
-/

namespace Lockable.Command

variable {σ : Type} {around : Surroundings σ} {context : Context} {s : Session σ} {server : σ}
  {l rs : List Resource} {names : List String} {name : String} {r : Resource} {a : RowAction}
  {f : String → Option Resource} {p : Permissions} {bar : ActionBar}

/-! ### Looking names up -/

theorem name_of_find? (h : find? l name = some r) : r.name = name := by
  simpa using List.find?_some h

/-- What is listed can be looked up. -/
theorem find?_isSome_iff : (find? l name).isSome ↔ name ∈ l.map Resource.name := by
  simp [find?]

/-- The names that are looked up are those of what is found. -/
theorem map_name_filterMap (h : ∀ name ∈ names, (find? l name).isSome) :
    (names.filterMap (find? l)).map Resource.name = names := by
  induction names with
  | nil => rfl
  | cons name rest ih =>
    obtain ⟨r, hr⟩ := Option.isSome_iff_exists.mp (h name List.mem_cons_self)
    rw [List.filterMap_cons_some hr, List.map_cons, name_of_find? hr,
      ih fun name hname => h name (List.mem_cons_of_mem _ hname)]

/-- Resources are picked when all their names are listed. -/
theorem pick_of_isSome (h : ∀ name ∈ names, (find? l name).isSome) :
    pick l names = .ok (names.filterMap (find? l)) := by
  have hmissing : names.filter (fun name => (find? l name).isNone) = [] := by
    rw [List.filter_eq_nil_iff]
    intro name hname
    simpa using Option.isSome_iff_ne_none.mp (h name hname)
  rw [pick, hmissing]
  rfl

theorem exists_pick_error (hname : name ∈ names) (h : find? l name = none) :
    ∃ e, pick l names = .error e := by
  have hmissing : names.filter (fun name => (find? l name).isNone) ≠ [] :=
    List.ne_nil_of_mem (List.mem_filter.mpr ⟨hname, by rw [h]; rfl⟩)
  rw [pick, List.isEmpty_eq_false_iff.mpr hmissing]
  exact ⟨_, rfl⟩

/-! ### Checking one after another -/

/-- **Checking one resource after another** succeeds and leaves every button as the gate says for
all of them. -/
theorem exists_checkAll (h : ActionBar.Checked f p names bar) (hrs : ∀ r ∈ rs, f r.name = some r) :
    ∃ after, checkAll rs { checked := names } bar = .ok after ∧
      ActionBar.Checked f p (names ++ rs.map Resource.name) after := by
  induction rs generalizing names bar with
  | nil => exact ⟨bar, rfl, by rwa [List.map_nil, List.append_nil]⟩
  | cons r rest ih =>
    have hselection : Source.selection (some { checked := names ++ [r.name] }) =
        .ok (distinct (names ++ [r.name])) := rfl
    obtain ⟨middle, hchange, hmiddle⟩ :=
      h.change (hrs r List.mem_cons_self) hselection fun name => mem_distinct
    obtain ⟨after, hrest, hafter⟩ := ih hmiddle fun r hr => hrs r (List.mem_cons_of_mem _ hr)
    refine ⟨after, ?_, ?_⟩
    · rw [checkAll, hchange]
      exact hrest
    · rwa [List.map_cons, List.append_cons]

/-! ### The bar of a command -/

/-- The permissions that are in effect. -/
def Context.effective (context : Context) : Permissions := .ofSettings context.permissions

/-- A new bar is loaded with the permissions in effect. -/
theorem exists_ends_loadBar (context : Context) (s : Session σ) :
    ∃ bar, Ends (loadBar context.permissions) s (.ok bar) [] [] ∧
      ∀ f, ActionBar.Checked f context.effective [] bar := by
  have hcleared : Source.cleared (some {}) = .ok (some {}) := rfl
  obtain ⟨bar, hload, hloaded⟩ :=
    ActionBar.exists_loaded (Permissions.derive_permissionMapping context.permissions) hcleared {}
  refine ⟨bar, ?_, .of_loaded hloaded⟩
  rw [loadBar, hload]
  exact (Ends.get (.ok ())).bind ((Ends.forM (fun r _ => .log r) _).bind (.pure bar))

/-- The bar with what is found of the names checked. -/
theorem exists_ends_evaluate (context : Context) (s : Session σ)
    (h : ∀ name ∈ names, (find? l name).isSome) :
    ∃ bar, Ends (evaluate context (names.filterMap (find? l))) s (.ok bar) [] [] ∧
      ActionBar.Checked (find? l) context.effective names bar := by
  obtain ⟨bar, hload, hchecked⟩ := exists_ends_loadBar context s
  have hfound : ∀ r ∈ names.filterMap (find? l), find? l r.name = some r := by
    intro r hr
    obtain ⟨name, -, hname⟩ := List.mem_filterMap.mp hr
    rw [name_of_find? hname, hname]
  obtain ⟨after, hall, hafter⟩ := exists_checkAll (hchecked (find? l)) hfound
  rw [List.nil_append, map_name_filterMap h] at hafter
  refine ⟨after, ?_, hafter⟩
  have hget : Ends (get (checkAll (names.filterMap (find? l)) {} bar))
      ((loadBar context.permissions).run.run s).2 (.ok after) [] [] :=
    hall ▸ Ends.get _
  exact hload.bind hget

/-- The last listed entry of each name is there and allows the action. -/
def Offered (p : Permissions) (l : List Resource) (names : List String) (a : RowAction) : Prop :=
  ∀ name ∈ names, ∃ r, find? l name = some r ∧ r.allows p a = true

/-- **The button is enabled when the rules allow the action for every name**, whatever else the
permissions say. -/
theorem enabled_iff_of_checked (h : ActionBar.Checked (find? l) context.effective names bar)
    (hne : names ≠ []) (hfound : ∀ name ∈ names, (find? l name).isSome) :
    bar.states.get (.action a) = .enabled ↔ Offered context.effective l names a := by
  have hall : (∀ r ∈ names.filterMap (find? l), r.allows context.effective a = true) ↔
      Offered context.effective l names a := by
    constructor
    · intro h name hname
      obtain ⟨r, hr⟩ := Option.isSome_iff_exists.mp (hfound name hname)
      exact ⟨r, hr, h r (List.mem_filterMap.mpr ⟨name, hname, hr⟩)⟩
    · intro h r hr
      obtain ⟨name, hname, hr⟩ := List.mem_filterMap.mp hr
      obtain ⟨r', hr', hallows⟩ := h name hname
      cases hr.symm.trans hr'
      exact hallows
  rw [h.states, ActionBar.gated]
  split
  · rw [ActionBar.gate_action_eq_enabled_iff, and_iff_right hne, hall]
  · next hdenied =>
    -- the button is hidden, and no entry can offer what is not permitted
    refine iff_of_false (by decide) fun hoffered => hdenied ?_
    obtain ⟨name, hname⟩ := List.exists_mem_of_ne_nil names hne
    obtain ⟨r, -, hallows⟩ := hoffered name hname
    exact Resource.permitted_of_allows hallows

end Lockable.Command
