import Lockable.Proofs.Checking
import Lockable.Proofs.Listing
import Lockable.Proofs.Panel.Visibility
import Lockable.Proofs.Permissions

/-!
# More grants, fewer rows

Two sessions are compared, each on a fresh bar: permissions are loaded, and then rows are checked
**one by one**. Where the second has at least the grants of the first and checks only rows that the
first checks, it offers all that the first offers and hides nothing that the first shows
(`Panel.offered_of_more_grants_of_fewer_rows`): what is offered is monotone in the grants and
antitone in the selection.

A session comes to the gate for its rows (`Panel.exists_session`), so what is left to compare are
permissions and rules. The rows must come from listings seen by the same user. A row that claims to
be reserved by the user and not to be reserved would be unreserved by anyone but an administrator.
-/

namespace Lockable.Panel

open ActionBar (Checked)

variable {f : String → Option Resource} {p : Permissions} {names : List String}
  {rows : List Resource} {order : List String → List String} {panel : Panel}

/-! ### A session -/

/-- Does one act after another, until one fails. -/
def acts (panel : Panel) : List Act → Except Failure Panel
  | [] => .ok panel
  | a :: rest =>
    match panel.act a with
    | (panel, .ok ()) => panel.acts rest
    | (_, .error e) => .error e

/-- What is done when rows are checked one by one: each is checked in the table, which then lists
what is checked in its own `order`, and is reported to the bar. -/
def checks (order : List String → List String) : List String → List Resource → List Act
  | _, [] => []
  | checked, r :: rest =>
    .attach (some { checked := order (checked ++ [r.name]) }) :: .change r true ::
      checks order (checked ++ [r.name]) rest

/-- What comes of loading permissions into a fresh bar with these buttons, and then checking rows
one by one. -/
def session (handles : List (Capability × ButtonHandle)) (order : List String → List String)
    (raw : Json) (rows : List Resource) : Except Failure Panel :=
  ({ bar := { handles }, source := some {} } : Panel).acts (.load raw :: checks order [] rows)

/-- An order lists the names that it is given, in whatever sequence and how often. -/
def Lists (order : List String → List String) : Prop :=
  ∀ names name, name ∈ order names ↔ name ∈ names

/-- **Checking rows one by one** succeeds, and the bar then has them all checked. -/
theorem exists_acts_checks (horder : Lists order) (hrows : ∀ r ∈ rows, f r.name = some r)
    (h : Checked f p names panel.bar) :
    ∃ after, panel.acts (checks order names rows) = .ok after ∧
      Checked f p (names ++ rows.map Resource.name) after.bar := by
  induction rows generalizing names panel with
  | nil => exact ⟨panel, rfl, by rwa [List.map_nil, List.append_nil]⟩
  | cons r rest ih =>
    obtain ⟨source, hsource⟩ : ∃ source : Option Source,
        source = some { checked := order (names ++ [r.name]) } := ⟨_, rfl⟩
    have hselection : Source.selection source = .ok (distinct (order (names ++ [r.name]))) := by
      rw [hsource]
      rfl
    obtain ⟨bar, hchange, hbar⟩ := h.change (hrows r List.mem_cons_self) hselection
      fun name => mem_distinct.trans (horder _ name)
    have hmiddle : Checked f p (names ++ [r.name]) ({ bar, source } : Panel).bar := hbar
    obtain ⟨after, hrest, hafter⟩ :=
      ih (fun r hr => hrows r (List.mem_cons_of_mem _ hr)) hmiddle
    refine ⟨after, ?_, ?_⟩
    · simp only [checks, acts, act]
      rw [← hsource, hchange]
      exact hrest
    · rwa [List.map_cons, List.append_cons]

/-- **A session comes to the gate**: it succeeds, and every button is as the permissions and the
rules say for all the rows. -/
theorem exists_session (members : List (String × Json))
    (handles : List (Capability × ButtonHandle)) (horder : Lists order)
    (hdistinct : (rows.map Resource.name).Nodup) :
    ∃ after, session handles order (.object members) rows = .ok after ∧
      ∀ b, after.bar.states.get b =
        ActionBar.gated (.ofMembers members) (rows.map Resource.name) rows b := by
  have hfound : ∀ r ∈ rows, Snapshots.get? r.name
      (rows.foldl (fun snapshots r => Snapshots.record r snapshots) []) = some r :=
    fun r hr => Snapshots.get?_recordAll_of_nodup hdistinct hr []
  generalize rows.foldl (fun snapshots r => Snapshots.record r snapshots) [] = snapshots at hfound
  have hcleared : Source.cleared (some {}) = .ok (some {}) := rfl
  obtain ⟨bar, hload, hloaded⟩ :=
    ActionBar.exists_loaded (Permissions.derive_object members) hcleared { handles }
  have hstart : Checked (Snapshots.get? · snapshots) (.ofMembers members) []
      ({ bar, source := some {} } : Panel).bar := .of_loaded hloaded _
  obtain ⟨after, hacts, hafter⟩ := exists_acts_checks horder hfound hstart
  refine ⟨after, ?_, fun b => ?_⟩
  · rw [session, acts, act, hload]
    exact hacts
  · have hrows : (rows.map Resource.name).filterMap (Snapshots.get? · snapshots) = rows := by
      rw [List.filterMap_map]
      exact (List.filterMap_congr hfound).trans List.filterMap_some
    rw [hafter.states, List.nil_append, hrows]

/-! ### The law -/

/-- **What is offered is monotone in the grants and antitone in the selection.** Whatever else the
two mappings have, if `q` gives all that can be granted and that `p` gives, and some of the rows
that are checked after loading `p` are checked after loading `q`, then both sessions succeed, every
button that the first enables the second enables too, and every one that the first shows the second
shows. -/
theorem offered_of_more_grants_of_fewer_rows {p q : List (String × Json)} {user : Json}
    {many few : List Resource} {order order' : List String → List String}
    (handles handles' : List (Capability × ButtonHandle))
    (hgrants : ∀ c ∈ Permissions.grantable, Grants.Given p c → Grants.Given q c)
    (hlisted : ∀ r ∈ many, ∃ entry, Resource.fromListing entry user = .ok r)
    (hdistinct : (many.map Resource.name).Nodup) (hdistinct' : (few.map Resource.name).Nodup)
    (hsome : few ≠ []) (hfew : few ⊆ many) (horder : Lists order) (horder' : Lists order') :
    ∃ first second, session handles order (.object p) many = .ok first ∧
      session handles' order' (.object q) few = .ok second ∧
      ∀ b, (first.bar.states.get b = .enabled → second.bar.states.get b = .enabled) ∧
        (first.bar.states.get b ≠ .hidden → second.bar.states.get b ≠ .hidden) := by
  obtain ⟨first, hfirst, hstates⟩ := exists_session p handles horder hdistinct
  obtain ⟨second, hsecond, hstates'⟩ := exists_session q handles' horder' hdistinct'
  have hpq : Permissions.ofMembers p ≤ Permissions.ofMembers q := Permissions.ofMembers_mono hgrants
  have hnames : few.map Resource.name ≠ [] := mt List.map_eq_nil_iff.mp hsome
  refine ⟨first, second, hfirst, hsecond, fun b => ?_⟩
  rw [hstates, hstates']
  constructor
  · -- what the first rows all allow, each of the second allows with more permissions
    simp only [ActionBar.gated_eq_enabled_iff]
    refine And.imp (hpq _) fun hgate => ?_
    cases b with
    | action a =>
      rw [ActionBar.gate_action_eq_enabled_iff] at hgate ⊢
      refine ⟨hnames, fun r hr => ?_⟩
      obtain ⟨entry, hentry⟩ := hlisted r (hfew hr)
      exact Resource.allows_mono hpq (Resource.isReserved_of_fromListing hentry)
        (hgate.2 r (hfew hr))
    | editNote => exact ActionBar.gate_editNote_eq_enabled_iff.mpr hnames
  · rw [ne_eq, ne_eq, ActionBar.gated_eq_hidden_iff, ActionBar.gated_eq_hidden_iff,
      Bool.not_eq_false, Bool.not_eq_false]
    exact hpq _

/-- Alice may unlock, and unlocks the printer that she has reserved together with a locked board. An
administrator who may unlock as well is offered it for the board alone. -/
theorem offered_of_more_grants_of_fewer_rows_administrator :
    let p : List (String × Json) :=
      [("RESET", .bool true), (" unlock", .int 1), ("steal", .text "")]
    let q : List (String × Json) := [("Unlock", .text "yes"), ("administer", .bool true)]
    let printer : Resource := {
      name := "printer", isReserved := true, isReservedByCurrentUser := true,
      reservedBy := .text "alice" }
    let board : Resource := { name := "board", isLocked := true }
    ∃ first second, session [] id (.object p) [printer, board] = .ok first ∧
      session [] List.reverse (.object q) [board] = .ok second ∧
      first.bar.states.get (.action .unlock) = .enabled ∧
      second.bar.states.get (.action .unlock) = .enabled ∧
      first.bar.states.get .editNote ≠ .hidden ∧ second.bar.states.get .editNote ≠ .hidden := by
  intro p q printer board
  have hgrants : ∀ c ∈ Permissions.grantable, Grants.Given p c → Grants.Given q c := by
    simp only [← Grants.has_collect_ofTexts_iff]
    decide +kernel
  have hlisted : ∀ r ∈ [printer, board], ∃ entry, Resource.fromListing entry (.text "alice") =
      .ok r := by
    intro r hr
    rcases List.mem_pair.mp hr with rfl | rfl
    · exact ⟨.object [("name", .text "printer"), ("reservedBy", .text "alice")], rfl⟩
    · exact ⟨.object [("name", .text "board"), ("locked", .bool true)], rfl⟩
  have horder : Lists id := fun _ _ => Iff.rfl
  have horder' : Lists List.reverse := fun _ _ => List.mem_reverse
  obtain ⟨first, second, hfirst, hsecond, hoffered⟩ :=
    offered_of_more_grants_of_fewer_rows [] [] hgrants hlisted (by decide) (by decide)
      (List.cons_ne_nil board []) (by simp) horder horder'
  have hshown : (session [] id (.object p) [printer, board]).map (fun panel =>
      (panel.bar.states.get (.action .unlock), panel.bar.states.get .editNote)) =
      .ok (.enabled, .enabled) := by
    decide +kernel
  rw [hfirst] at hshown
  obtain ⟨hunlock, henabled⟩ := Prod.mk.inj (Except.ok.inj hshown)
  have hedit : first.bar.states.get .editNote ≠ .hidden := by
    rw [henabled]
    decide
  exact ⟨first, second, hfirst, hsecond, hunlock, (hoffered _).1 hunlock, hedit,
    (hoffered _).2 hedit⟩

end Lockable.Panel
