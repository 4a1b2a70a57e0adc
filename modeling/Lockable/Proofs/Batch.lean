import Lockable.Proofs.Intact

/-!
# Batches in a path

The path of a request has the endpoint of its action, and one field: the name of a single resource,
or the names of several with line feeds between them. What is written there is read back, so a path
tells the action and the field (`ActionRequest.path_eq_path_iff`). Whether it also tells the
**batch** depends on the names. A single name is told whatever it is, and several are told apart by
the line feeds between them, unless one of them has a line feed of its own: then the lines of the
field are the names of another batch with the same path.
-/

namespace Lockable

namespace Text

variable {s : Char} {cs : List Char}

/-- The pieces of a text, put together as they were cut, are the text. -/
theorem intercalate_splitOn (s : Char) (cs : List Char) :
    [s].intercalate (splitOn (fun c => decide (c = s)) cs) = cs := by
  induction cs with
  | nil => rfl
  | cons c cs ih =>
    obtain ⟨piece, pieces, hcs, hcons⟩ := exists_splitOn_cons (fun c => decide (c = s)) c cs
    rw [hcs] at ih
    rw [hcons]
    split
    · next hc =>
      rw [List.intercalate_cons_cons, ih, of_decide_eq_true hc]
      rfl
    · cases pieces with
      | nil =>
        rw [List.intercalate_singleton] at ih ⊢
        rw [ih]
      | cons next pieces =>
        rw [List.intercalate_cons_cons] at ih ⊢
        rw [← ih]
        rfl

/-- A text with a separator in it is cut into more than one piece. -/
theorem one_lt_length_splitOn (h : s ∈ cs) :
    1 < (splitOn (fun c => decide (c = s)) cs).length := by
  rcases hpieces : splitOn (fun c => decide (c = s)) cs with _ | ⟨piece, _ | ⟨next, pieces⟩⟩
  · obtain ⟨_, _, hcs, -⟩ := exists_splitOn_cons (fun c => decide (c = s)) s cs
    cases hpieces.symm.trans hcs
  · -- the one piece would be the whole text, and there is no separator in a piece
    have hwhole := intercalate_splitOn s cs
    rw [hpieces, List.intercalate_singleton] at hwhole
    have hpiece : piece ∈ splitOn (fun c => decide (c = s)) cs := hpieces ▸ List.mem_cons_self
    have hnone := separator_eq_false_of_mem_splitOn hpiece s (hwhole ▸ h)
    simp at hnone
  · simp

end Text

/-! ### Lines -/

namespace ActionRequest

variable {r s : ActionRequest} {names : List String} {name : String}

/-- Names one after another, with line feeds between them. -/
def joined (names : List String) : String := "\n".intercalate names

/-- The lines of a text. -/
def linesOf (s : String) : List String :=
  (Text.splitOn (fun c => decide (c = '\n')) s.toList).map String.ofList

/-- No name has a line feed in it. -/
def NoLineFeed (names : List String) : Prop := ∀ name ∈ names, '\n' ∉ name.toList

theorem joined_linesOf (s : String) : joined (linesOf s) = s := by
  rw [← String.toList_inj, joined, String.toList_intercalate, linesOf, List.map_map]
  have hsame : String.toList ∘ String.ofList = id := funext fun _ => String.toList_ofList
  rw [hsame, List.map_id]
  exact Text.intercalate_splitOn '\n' s.toList

theorem noLineFeed_linesOf (s : String) : NoLineFeed (linesOf s) := by
  intro name hname hmem
  obtain ⟨piece, hpiece, rfl⟩ := List.mem_map.mp hname
  rw [String.toList_ofList] at hmem
  have hnone := Text.separator_eq_false_of_mem_splitOn hpiece '\n' hmem
  simp at hnone

/-- Names without line feeds are the lines of what they are joined to. -/
theorem linesOf_joined (hne : names ≠ []) (h : NoLineFeed names) :
    linesOf (joined names) = names := by
  obtain ⟨first, rest, rfl⟩ := List.exists_cons_of_ne_nil hne
  have hpieces : ∀ p ∈ (first :: rest).map String.toList,
      ∀ c ∈ p, decide (c = '\n') = false := by
    intro p hp c hc
    obtain ⟨name, hname, rfl⟩ := List.mem_map.mp hp
    refine decide_eq_false ?_
    rintro rfl
    exact h name hname hc
  have hsplit : Text.splitOn (fun c => decide (c = '\n'))
      (['\n'].intercalate (first.toList :: rest.map String.toList)) =
        first.toList :: rest.map String.toList :=
    Text.splitOn_intercalate (by decide) hpieces
  have hlist : (joined (first :: rest)).toList =
      ['\n'].intercalate (first.toList :: rest.map String.toList) := String.toList_intercalate
  rw [linesOf, hlist, hsplit, ← List.map_cons, List.map_map]
  have hsame : String.ofList ∘ String.toList = id := funext fun _ => String.ofList_toList
  rw [hsame, List.map_id]

/-- Where several names are joined there is a line feed. -/
theorem lineFeed_mem_joined (h : 1 < names.length) : '\n' ∈ (joined names).toList := by
  match names, h with
  | first :: second :: rest, _ =>
    rw [joined, String.toList_intercalate, List.map_cons, List.map_cons,
      List.intercalate_cons_cons]
    simp

theorem one_lt_length_linesOf (h : '\n' ∈ name.toList) : 1 < (linesOf name).length := by
  rw [linesOf, List.length_map]
  exact Text.one_lt_length_splitOn h

/-! ### Fields -/

theorem one_lt_length_iff : 1 < r.resources.length ↔ r.resources.length ≠ 1 := by
  have hpos := List.length_pos_iff.mpr r.resources_ne_nil
  omega

/-- A single name goes under another field than several. -/
theorem field_eq (r : ActionRequest) :
    r.field = (if r.resources.length = 1 then "resource" else "resources", joined r.resources) := by
  rw [field]
  rcases r.resources with _ | ⟨first, _ | ⟨second, rest⟩⟩
  · rfl
  · exact congrArg (Prod.mk "resource") String.intercalate_singleton.symm
  · rfl

theorem joined_of_length_one (h : r.resources.length = 1) : r.resources = [joined r.resources] := by
  obtain ⟨name, hname⟩ := List.length_eq_one_iff.mp h
  rw [hname, joined, String.intercalate_singleton]

/-- **What a field tells of a batch**: all, or that there are several names and what they are joined
to. -/
theorem field_eq_field_iff : s.field = r.field ↔ s.resources = r.resources ∨
    (1 < s.resources.length ∧ 1 < r.resources.length ∧
      joined s.resources = joined r.resources) := by
  constructor
  · intro h
    rw [field_eq, field_eq, Prod.mk.injEq] at h
    obtain ⟨hname, hjoined⟩ := h
    rw [one_lt_length_iff, one_lt_length_iff]
    by_cases hs : s.resources.length = 1 <;> by_cases hr : r.resources.length = 1
    · rw [joined_of_length_one hs, joined_of_length_one hr, hjoined]
      exact .inl rfl
    · rw [if_pos hs, if_neg hr] at hname
      exact absurd hname (by decide)
    · rw [if_neg hs, if_pos hr] at hname
      exact absurd hname (by decide)
    · exact .inr ⟨hs, hr, hjoined⟩
  · rintro (h | ⟨hs, hr, hjoined⟩)
    · rw [field_eq, field_eq, h]
    · rw [field_eq, field_eq, if_neg (one_lt_length_iff.mp hs), if_neg (one_lt_length_iff.mp hr),
        hjoined]

/-- The names that a field stands for, as far as they can be told: what is under `resource` is one
name, under any other field every line is. -/
def namesIn (f : String × String) : List String :=
  if f.1 = "resource" then [f.2] else linesOf f.2

theorem namesIn_field (r : ActionRequest) : namesIn r.field =
    if r.resources.length = 1 then r.resources else linesOf (joined r.resources) := by
  rw [field_eq]
  split
  · next h => exact (joined_of_length_one h).symm
  · rfl

/-! ### Paths -/

theorem endpoint_inj {a b : RowAction} (h : a.endpoint = b.endpoint) : a = b := by
  cases a <;> cases b <;> first | rfl | exact absurd h (by decide)

/-- The endpoint of a path ends at the first `?`. -/
theorem path_parts (r : ActionRequest) :
    r.path.toList.takeWhile (· ≠ '?') = r.action.endpoint.toList ∧
      (r.path.toList.dropWhile (· ≠ '?')).drop 1 = r.query.toList := by
  have hpath : r.path.toList = r.action.endpoint.toList ++ '?' :: r.query.toList := by
    simp [path]
  have hendpoint : ∀ c ∈ r.action.endpoint.toList, decide (c ≠ '?') = true := by
    rw [← List.all_eq_true]
    cases r.action <;> rfl
  rw [hpath, List.takeWhile_append_of_pos hendpoint, List.dropWhile_append_of_pos hendpoint,
    List.takeWhile_cons_of_neg (by decide), List.dropWhile_cons_of_neg (by decide),
    List.append_nil, List.drop_one, List.tail_cons]
  exact ⟨rfl, rfl⟩

/-- **A path tells the action and the field.** -/
theorem path_eq_path_iff : s.path = r.path ↔ s.action = r.action ∧ s.field = r.field := by
  constructor
  · intro h
    obtain ⟨hsendpoint, hsquery⟩ := path_parts s
    obtain ⟨hrendpoint, hrquery⟩ := path_parts r
    rw [h] at hsendpoint hsquery
    have hendpoint := String.toList_inj.mp (hsendpoint.symm.trans hrendpoint)
    have hquery := String.toList_inj.mp (hsquery.symm.trans hrquery)
    refine ⟨endpoint_inj hendpoint, ?_⟩
    have hread := Percent.readForm_of_writes (Client.writes_query s)
    rw [hquery, Percent.readForm_of_writes (Client.writes_query r)] at hread
    exact (List.singleton_inj.mp hread).symm
  · rintro ⟨haction, hfield⟩
    rw [path, path, query, query, formFields, formFields, haction, hfield]

/-- **What a server can read in a path**: the endpoint before the first `?`, and the names in the
form behind it. -/
def readPath (path : String) : String × List String :=
  (String.ofList (path.toList.takeWhile (· ≠ '?')),
    (Percent.readForm (String.ofList ((path.toList.dropWhile (· ≠ '?')).drop 1))).flatMap namesIn)

theorem readPath_path (r : ActionRequest) :
    readPath r.path = (r.action.endpoint, namesIn r.field) := by
  obtain ⟨hendpoint, hquery⟩ := path_parts r
  rw [readPath, hendpoint, hquery, String.ofList_toList, String.ofList_toList,
    Percent.readForm_of_writes (Client.writes_query r), List.flatMap_singleton]

/-- The names are **told apart** in a path: there is one, or none has a line feed of its own. -/
def ToldApart (names : List String) : Prop := names.length = 1 ∨ NoLineFeed names

theorem namesIn_field_eq_iff : namesIn r.field = r.resources ↔ ToldApart r.resources := by
  rw [namesIn_field]
  by_cases hone : r.resources.length = 1
  · rw [if_pos hone]
    exact iff_of_true rfl (.inl hone)
  · rw [if_neg hone, ToldApart, or_iff_right hone]
    constructor
    · intro h
      rw [← h]
      exact noLineFeed_linesOf _
    · exact linesOf_joined r.resources_ne_nil

theorem readPath_path_eq_iff :
    readPath r.path = (r.action.endpoint, r.resources) ↔ ToldApart r.resources := by
  rw [readPath_path, Prod.mk.injEq, and_iff_right rfl, namesIn_field_eq_iff]

theorem eq_of_toldApart (hr : ToldApart r.resources) (hs : ToldApart s.resources)
    (h : s.path = r.path) : s = r := by
  obtain ⟨haction, hfield⟩ := path_eq_path_iff.mp h
  have hresources : s.resources = r.resources := by
    rw [← namesIn_field_eq_iff.mpr hs, hfield, namesIn_field_eq_iff.mpr hr]
  cases s
  cases r
  cases haction
  cases hresources
  rfl

/-- Where several names are not told apart there is another batch with the same path: that of the
lines. -/
theorem exists_of_not_toldApart (h : ¬ToldApart r.resources) :
    ∃ s, s.path = r.path ∧ ToldApart s.resources ∧ s ≠ r := by
  have hseveral := one_lt_length_iff.mpr (not_or.mp h).1
  have hlines := one_lt_length_linesOf (lineFeed_mem_joined hseveral)
  let s : ActionRequest := {
    action := r.action
    resources := linesOf (joined r.resources)
    resources_ne_nil := List.ne_nil_of_length_pos (by omega) }
  have hjoined : joined s.resources = joined r.resources := joined_linesOf _
  have htold : ToldApart s.resources := .inr (noLineFeed_linesOf _)
  refine ⟨s, ?_, htold, fun hsame => h (hsame ▸ htold)⟩
  exact path_eq_path_iff.mpr ⟨rfl, field_eq_field_iff.mpr (.inr ⟨hlines, hseveral, hjoined⟩)⟩

/-- **A path identifies its batch up to line feeds in names.** Two requests have the same path
exactly if they are for the same action and the same names, or for several names each that come to
the same text when they are joined. So they are the same request if the names of both are told
apart, and a batch is read back from its path exactly if its names are. If they are not, there is
another batch with the same path whose names are. -/
theorem path_identifies_batch (r s : ActionRequest) :
    (s.path = r.path ↔ s.action = r.action ∧ (s.resources = r.resources ∨
      (1 < s.resources.length ∧ 1 < r.resources.length ∧
        "\n".intercalate s.resources = "\n".intercalate r.resources))) ∧
    (ToldApart r.resources → ToldApart s.resources → (s.path = r.path ↔ s = r)) ∧
    (readPath r.path = (r.action.endpoint, r.resources) ↔ ToldApart r.resources) ∧
    (¬ToldApart r.resources →
      ∃ t : ActionRequest, t.path = r.path ∧ ToldApart t.resources ∧ t ≠ r) := by
  refine ⟨?_, fun hr hs => ⟨eq_of_toldApart hr hs, fun h => h ▸ rfl⟩, readPath_path_eq_iff,
    exists_of_not_toldApart⟩
  rw [path_eq_path_iff, field_eq_field_iff]
  rfl

/-- Two names that are hard to spell are read back, and no other request of theirs has the path. -/
theorem path_identifies_batch_marks :
    let r : ActionRequest := ⟨.steal, ["a/b", "c&resource=d é"], by decide⟩
    let s : ActionRequest := ⟨.steal, ["c&resource=d é", "a/b"], by decide⟩
    r.path = "steal?resources=a%2Fb%0Ac%26resource%3Dd%20%C3%A9" ∧
      readPath r.path = ("steal", ["a/b", "c&resource=d é"]) ∧ s.path ≠ r.path := by
  intro r s
  have hr : ToldApart r.resources := .inr (by unfold NoLineFeed; decide)
  have hs : ToldApart s.resources := .inr (by unfold NoLineFeed; decide)
  obtain ⟨-, hsame, hread, -⟩ := path_identifies_batch r s
  exact ⟨by decide, hread.mpr hr, fun h => absurd ((hsame hr hs).mp h) (by decide)⟩

/-- A line feed in a name is taken for one between names: these two batches have the same path. -/
theorem same_path_of_line_feed :
    ∃ r s : ActionRequest, r.resources = ["a\nb", "c"] ∧ s.resources = ["a", "b\nc"] ∧
      r.path = "unlock?resources=a%0Ab%0Ac" ∧ s.path = r.path ∧ s.resources ≠ r.resources :=
  ⟨⟨.unlock, ["a\nb", "c"], by decide⟩, ⟨.unlock, ["a", "b\nc"], by decide⟩, rfl, rfl, by decide,
    by decide, by decide⟩

end ActionRequest

end Lockable
