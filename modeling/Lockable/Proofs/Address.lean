import Mathlib.Logic.Basic
import Lockable.Http.Url
import Lockable.Proofs.Form

/-!
# Addresses below a base

What becomes of the address of a page below a base. An address is **settled**: its path has safe
characters only, and no dot segments if they would be resolved. So nothing more is done to it when
it is brought into form again, and the page of a base is the path of the base and the path of the
page, one after the other, with the query of the page (`Url.extend_page`).
-/

namespace Lockable

namespace Percent

theorem toNat_bounds_of_isUnreserved {c : Char} (h : isUnreserved c = true) :
    32 ≤ c.toNat ∧ c.toNat < 127 := by
  have hrange {low high : UInt32} (hlow : low ≤ c.val) (hhigh : c.val ≤ high)
      (hprintable : 32 ≤ low.toNat ∧ high.toNat < 127) : 32 ≤ c.toNat ∧ c.toNat < 127 :=
    ⟨Nat.le_trans hprintable.1 (UInt32.le_iff_toNat_le.mp hlow),
      Nat.lt_of_le_of_lt (UInt32.le_iff_toNat_le.mp hhigh) hprintable.2⟩
  simp only [isUnreserved, Char.isAlphanum, Bool.or_eq_true, decide_eq_true_eq] at h
  rcases h with (((((halpha | hdigit) | rfl) | rfl) | rfl) | rfl)
  · rcases Bool.or_eq_true_iff.mp halpha with hupper | hlower
    · obtain ⟨hlow, hhigh⟩ := of_decide_eq_true hupper
      exact hrange hlow hhigh (by decide)
    · obtain ⟨hlow, hhigh⟩ := Bool.and_eq_true_iff.mp hlower
      exact hrange (of_decide_eq_true hlow) (of_decide_eq_true hhigh) (by decide)
  · obtain ⟨hlow, hhigh⟩ := Bool.and_eq_true_iff.mp hdigit
    exact hrange (of_decide_eq_true hlow) (of_decide_eq_true hhigh) (by decide)
  all_goals decide

/-- What an encoded text consists of are printable characters of ASCII. -/
theorem toNat_bounds_of_isWritten {c : Char} (h : isWritten c = true) :
    32 ≤ c.toNat ∧ c.toNat < 127 := by
  simp only [isWritten, isComponentSafe, Bool.or_eq_true, decide_eq_true_eq] at h
  rcases h with (((((((h | rfl) | rfl) | rfl) | rfl) | rfl) | rfl) | rfl)
  · exact toNat_bounds_of_isUnreserved h
  all_goals decide

/-- Where nothing is written as an escape everything stands as it is. -/
theorem encodeWith_eq_self {isSafe : Char → Bool} {cs : List Char}
    (h : '%' ∉ encodeWith isSafe cs) : encodeWith isSafe cs = cs := by
  induction cs with
  | nil => rfl
  | cons c rest ih =>
    rw [encodeWith, List.flatMap_cons, List.mem_append, not_or] at h
    rw [encodeWith, List.flatMap_cons]
    have hrest := ih h.2
    rw [encodeWith] at hrest
    rw [hrest]
    split
    · rfl
    · next hunsafe =>
      -- every character has an octet, so its escape would have a percent sign
      rw [if_neg hunsafe] at h
      obtain ⟨b, tails, hoctets, -⟩ := Utf8.decodeOne_encodeChar c []
      refine absurd ?_ h.1
      rw [escapeChar, hoctets, List.flatMap_cons]
      exact List.mem_cons_self

theorem encodeWith_of_safe {isSafe : Char → Bool} {cs : List Char}
    (h : ∀ c ∈ cs, isSafe c = true) : encodeWith isSafe cs = cs := by
  induction cs with
  | nil => rfl
  | cons c rest ih =>
    obtain ⟨hc, hrest⟩ := List.forall_mem_cons.mp h
    have hih := ih hrest
    rw [encodeWith] at hih ⊢
    rw [List.flatMap_cons, if_pos hc, hih]
    rfl

end Percent

namespace Url

variable {u d : Url} {p : Parts}

/-! ### Characters -/

/-- What an encoded text consists of may stand wherever none of it is kept out. -/
theorem isSafeBut_of_isWritten {except : List Char} {c : Char}
    (hexcept : except.any Percent.isWritten = false) (h : Percent.isWritten c = true) :
    isSafeBut except c = true := by
  have hmem : c ∉ except := fun hc => List.any_eq_false.mp hexcept c hc h
  obtain ⟨hlow, hhigh⟩ := Percent.toNat_bounds_of_isWritten h
  simp [isSafeBut, hlow, hhigh, hmem]

theorem isQuerySafe_of_isWritten {c : Char} (h : Percent.isWritten c = true) :
    isQuerySafe c = true :=
  isSafeBut_of_isWritten (by decide) h

/-- A field in writing may stand in a query. -/
theorem isQuerySafe_of_writes {w : String} {f : String × String} (hw : Percent.Writes w f)
    {c : Char} (h : c ∈ w.toList) : isQuerySafe c = true := by
  rcases hw.isWritten_or_eq c h with h | rfl
  · exact isQuerySafe_of_isWritten h
  · decide

theorem isPathSafe_of_isWritten {c : Char} (h : Percent.isWritten c = true) :
    isPathSafe c = true :=
  isSafeBut_of_isWritten (by decide) h

/-- Safe characters are left as they are. -/
theorem encode_of_safe {isSafe : Char → Bool} {s : String} (h : ∀ c ∈ s.toList, isSafe c = true) :
    encode isSafe s = s := by
  rw [encode, Percent.encodeWith_of_safe h, String.ofList_toList]

/-- All characters of an encoded path are safe. -/
theorem isPathSafe_of_mem_encode {s : String} {c : Char}
    (h : c ∈ (encode isPathSafe s).toList) : isPathSafe c = true := by
  rw [encode, String.toList_ofList] at h
  obtain ⟨d, -, hc⟩ := List.mem_flatMap.mp h
  split at hc
  · next hd => rwa [List.mem_singleton.mp hc]
  · exact isPathSafe_of_isWritten (Percent.isWritten_of_mem_escapeChar hc)

/-! ### Dot segments -/

/-- No segment of the path is one that stands for a place. -/
def NoDots (cs : List Char) : Prop :=
  ∀ segment ∈ Text.splitOn (· = '/') cs, segment ≠ ['.'] ∧ segment ≠ ['.', '.']

instance (cs : List Char) : Decidable (NoDots cs) :=
  List.decidableBAll _ _

/-- A path without dot segments is left as it is. -/
theorem resolveDots_of_noDots {path : String} (h : NoDots path.toList) :
    resolveDots path = path := by
  have hone : ['.'] ∉ Text.splitOn (· = '/') path.toList := fun hmem => (h _ hmem).1 rfl
  have htwo : ['.', '.'] ∉ Text.splitOn (· = '/') path.toList := fun hmem => (h _ hmem).2 rfl
  rw [resolveDots, if_neg]
  simp [hone, htwo]

/-- A segment that stands for itself. -/
structure IsPlain (segment : List Char) : Prop where
  noSlash : ∀ c ∈ segment, decide (c = '/') = false
  ne_here : segment ≠ ['.']
  ne_above : segment ≠ ['.', '.']

/-- One segment more leaves none but segments that stand for themselves. -/
theorem isPlain_of_mem_pushSegment {done : List (List Char)} {segment : List Char}
    (hdone : ∀ s ∈ done, IsPlain s) (hsegment : ∀ c ∈ segment, decide (c = '/') = false) :
    ∀ s ∈ pushSegment done segment, IsPlain s := by
  intro s hs
  rw [pushSegment] at hs
  split at hs
  · exact hdone s hs
  · next hhere =>
    split at hs
    · split at hs
      · exact hdone s hs
      · exact hdone s (List.dropLast_subset _ hs)
    · next habove =>
      rcases List.mem_append.mp hs with hs | hs
      · exact hdone s hs
      · rw [List.mem_singleton.mp hs]
        exact ⟨hsegment, hhere, habove⟩

/-- So do any number of segments. -/
theorem isPlain_of_mem_foldl {segments done : List (List Char)} (hdone : ∀ s ∈ done, IsPlain s)
    (hsegments : ∀ s ∈ segments, ∀ c ∈ s, decide (c = '/') = false) :
    ∀ s ∈ segments.foldl pushSegment done, IsPlain s := by
  induction segments generalizing done with
  | nil => exact hdone
  | cons segment segments ih =>
    obtain ⟨hsegment, hrest⟩ := List.forall_mem_cons.mp hsegments
    exact ih (isPlain_of_mem_pushSegment hdone hsegment) hrest

theorem noDots_nil : NoDots [] := fun segment hsegment => by
  rw [List.mem_singleton.mp hsegment]
  exact ⟨nofun, nofun⟩

/-- A path of segments that stand for themselves has no dot segments. -/
theorem noDots_intercalate {segments : List (List Char)} (h : ∀ s ∈ segments, IsPlain s) :
    NoDots (['/'].intercalate segments) := by
  cases segments with
  | nil => exact noDots_nil
  | cons segment segments =>
    rw [NoDots, Text.splitOn_intercalate (by decide) fun s hs => (h s hs).noSlash]
    exact fun s hs => ⟨(h s hs).ne_here, (h s hs).ne_above⟩

/-- What is resolved has no dot segments. -/
theorem noDots_resolveDots (path : String) : NoDots (resolveDots path).toList := by
  rw [resolveDots]
  split
  · rw [String.toList_ofList]
    exact noDots_intercalate (isPlain_of_mem_foldl (fun s hs => absurd hs List.not_mem_nil)
      fun s hs => Text.separator_eq_false_of_mem_splitOn hs)
  · next h =>
    rw [Bool.or_eq_true, not_or, List.contains_iff_mem, List.contains_iff_mem] at h
    intro segment hsegment
    refine ⟨?_, ?_⟩
    · rintro rfl
      exact h.1 hsegment
    · rintro rfl
      exact h.2 hsegment

/-- Two paths with a slash between them have the dot segments of both. -/
theorem noDots_append_slash_iff {cs rest : List Char} :
    NoDots (cs ++ '/' :: rest) ↔ NoDots cs ∧ NoDots rest := by
  rw [NoDots, Text.splitOn_append_cons _ (by decide)]
  exact List.forall_mem_append

/-- Encoding a path makes no dot segments. -/
theorem noDots_encodeWith {cs : List Char} (h : NoDots cs) :
    NoDots (Percent.encodeWith isPathSafe cs) := by
  have hsplit : Text.splitOn (fun c => decide (c = '/')) (Percent.encodeWith isPathSafe cs) =
      (Text.splitOn (fun c => decide (c = '/')) cs).map (Percent.encodeWith isPathSafe) := by
    refine Text.splitOn_flatMap (fun c hc => ?_) (fun c hc d hd => ?_) cs
    · rw [of_decide_eq_true hc]
      rfl
    · split at hd
      · rwa [List.mem_singleton.mp hd]
      · refine decide_eq_false (Percent.ne_of_isWritten (by decide) ?_)
        exact Percent.isWritten_of_mem_escapeChar hd
  rw [NoDots, hsplit]
  intro segment hsegment
  obtain ⟨plain, hplain, rfl⟩ := List.mem_map.mp hsegment
  obtain ⟨hhere, habove⟩ := h plain hplain
  refine ⟨fun heq => ?_, fun heq => ?_⟩
  · exact hhere ((Percent.encodeWith_eq_self (by rw [heq]; decide)).symm.trans heq)
  · exact habove ((Percent.encodeWith_eq_self (by rw [heq]; decide)).symm.trans heq)

/-! ### Bringing into form -/

/-- An address is **settled**: bringing it into form again would leave its path as it is. -/
structure IsSettled (u : Url) : Prop where
  isPathSafe_of_mem : ∀ c ∈ u.path.toList, isPathSafe c = true
  noDots : u.scheme ≠ "" ∨ u.authority ≠ "" → NoDots u.path.toList

/-- What becomes of parts: an address that says where its path starts has its dot segments
resolved. -/
theorem assemble_cases (h : assemble p = .ok u) :
    u.query = p.query.map (encode isQuerySafe) ∧
    ((p.scheme ≠ "" ∨ p.authority ≠ "") ∧ u.path = encode isPathSafe (resolveDots p.path) ∨
      (u.scheme = "" ∧ u.authority = "") ∧ u.path = encode isPathSafe p.path) := by
  rw [assemble] at h
  simp only [bind, Except.bind] at h
  rcases hsplit : splitAuthority p.authority.toList with ⟨user, host, port⟩
  rcases hhost : encodeHost (String.ofList host) with fault | name
  · rw [hsplit, hhost] at h
    cases h
  rcases hport : readPort p.scheme port with fault | number
  · rw [hsplit, hhost, hport] at h
    cases h
  rw [hsplit, hhost, hport] at h
  dsimp only at h
  split at h
  · cases h
  split at h
  · cases h
  split at h
  · cases h
  cases h
  refine ⟨rfl, ?_⟩
  by_cases hplaced : p.scheme ≠ "" ∨ encode isUserSafe (String.ofList user) ≠ "" ∨ name ≠ "" ∨
      number.isSome = true
  · refine .inl ⟨?_, congrArg (encode isPathSafe) (if_pos hplaced)⟩
    rcases hplaced with hscheme | hauthority
    · exact .inl hscheme
    · refine .inr fun hempty => ?_
      -- no authority is no user, no host and no port
      obtain ⟨rfl, rfl, rfl⟩ : user = [] ∧ host = [] ∧ port = [] := by
        have hnothing : splitAuthority "".toList = ([], [], []) := by decide
        rw [hempty, hnothing] at hsplit
        simpa using hsplit.symm
      have hnobody : encode isUserSafe (String.ofList []) = "" := by decide
      have hnowhere : encodeHost (String.ofList []) = .ok "" := by
        simp [encodeHost, looksLikeFour, Text.lower, Percent.encodeWith]
      rw [hnowhere] at hhost
      cases hhost
      cases hport
      simp [hnobody] at hauthority
  · obtain ⟨hscheme, huser, hname, hnumber⟩ : p.scheme = "" ∧
        encode isUserSafe (String.ofList user) = "" ∧ name = "" ∧ number = none := by
      simpa [not_or] using hplaced
    refine .inr ⟨⟨?_, ?_⟩, congrArg (encode isPathSafe) (if_neg hplaced)⟩
    · rw [hscheme]
      rfl
    · simp [authority, place, huser, hname, hnumber]

/-- What is brought into form is settled. -/
theorem isSettled_of_assemble (h : assemble p = .ok u) : u.IsSettled := by
  obtain ⟨-, ⟨-, hpath⟩ | ⟨⟨hscheme, hauthority⟩, hpath⟩⟩ := assemble_cases h
  · refine ⟨fun c hc => ?_, fun _ => ?_⟩
    · rw [hpath] at hc
      exact isPathSafe_of_mem_encode hc
    · rw [hpath, encode, String.toList_ofList]
      exact noDots_encodeWith (noDots_resolveDots p.path)
  · refine ⟨fun c hc => ?_, fun hplaced => ?_⟩
    · rw [hpath] at hc
      exact isPathSafe_of_mem_encode hc
    · exact absurd hplaced (not_or.mpr ⟨not_not.mpr hscheme, not_not.mpr hauthority⟩)

/-- Parts whose path has safe characters and no dot segments keep their path. -/
theorem path_eq_of_assemble (h : assemble p = .ok u)
    (hsafe : ∀ c ∈ p.path.toList, isPathSafe c = true)
    (hdots : p.scheme ≠ "" ∨ p.authority ≠ "" → NoDots p.path.toList) : u.path = p.path := by
  obtain ⟨-, ⟨hplaced, hpath⟩ | ⟨-, hpath⟩⟩ := assemble_cases h
  · rw [hpath, resolveDots_of_noDots (hdots hplaced), encode_of_safe hsafe]
  · rw [hpath, encode_of_safe hsafe]

theorem assemble_of_rebuild (h : rebuild p = .ok u) : assemble p = .ok u := by
  rw [rebuild] at h
  dsimp only at h
  split at h
  · cases h
  split at h
  · cases h
  split at h
  · cases h
  exact h

theorem isSettled_of_parse {s : String} (h : parse s = .ok u) : u.IsSettled := by
  rw [parse] at h
  split at h
  · cases h
  split at h
  · cases h
  exact isSettled_of_assemble h

/-! ### Targets -/

/-- A path with a query, if there is one, as one text. -/
def targetText (path : String) (query : Option String) : String :=
  path ++ match query with
    | some q => "?" ++ q
    | none => ""

theorem target_eq (u : Url) :
    u.target = targetText (if u.path = "" then "/" else u.path) u.query := rfl

theorem target_of_query_none (h : u.query = none) :
    u.target = if u.path = "" then "/" else u.path := by
  rw [target_eq, h]
  exact String.append_empty

theorem toList_targetText (path : String) (query : Option String) :
    (targetText path query).toList =
      path.toList ++ (query.map fun q => '?' :: q.toList).getD [] := by
  cases query <;> simp [targetText]

/-- A path of safe characters ends where the query begins. -/
theorem cutAt_append {stops path rest : List Char} (hpath : ∀ c ∈ path, stops.contains c = false)
    (hrest : ∀ c ∈ rest.head?, stops.contains c = true) :
    cutAt stops (path ++ rest) = (path, rest) := by
  have hgo : ∀ c ∈ path, (!stops.contains c) = true := fun c hc => by rw [hpath c hc]; rfl
  rw [cutAt, List.takeWhile_append_of_pos hgo, List.dropWhile_append_of_pos hgo]
  cases rest with
  | nil => simp
  | cons c rest =>
    have hc : stops.contains c = true := hrest c rfl
    rw [List.takeWhile_cons, List.dropWhile_cons, hc]
    simp

/-- Safe characters are none that anything ends at. -/
theorem contains_eq_false {isSafe : Char → Bool} {stops : List Char}
    (hstops : stops.any isSafe = false) {c : Char} (h : isSafe c = true) :
    stops.contains c = false := by
  rw [← Bool.not_eq_true, List.contains_iff_mem]
  exact fun hc => List.any_eq_false.mp hstops c hc h

/-- The query begins with its mark, if there is one. -/
theorem head?_query {query : Option String} :
    ∀ c ∈ ((query.map fun q => '?' :: q.toList).getD []).head?, c = '?' := by
  cases query <;> simp [eq_comm]

/-- **An address with another target** has its path and its query, if nothing of them is to be
encoded or resolved. -/
theorem withTarget_eq {path : String} {query : Option String}
    (h : u.withTarget (targetText path query) = .ok d)
    (hsafe : ∀ c ∈ path.toList, isPathSafe c = true)
    (hdots : u.scheme ≠ "" ∨ u.authority ≠ "" → NoDots path.toList)
    (hquery : ∀ q ∈ query, ∀ c ∈ q.toList, isQuerySafe c = true) :
    d.IsSettled ∧ d.path = path ∧ d.query = query := by
  have hcut : cutAt ['?'] (targetText path query).toList =
      (path.toList, (query.map fun q => '?' :: q.toList).getD []) := by
    rw [toList_targetText]
    refine cutAt_append (fun c hc => contains_eq_false (by decide) (hsafe c hc)) fun c hc => ?_
    rw [head?_query c hc]
    rfl
  rw [withTarget, hcut] at h
  have hassemble := assemble_of_rebuild h
  refine ⟨isSettled_of_assemble hassemble, ?_, ?_⟩
  · have hpath := path_eq_of_assemble hassemble (by simpa using hsafe)
      (by simpa [parts] using hdots)
    rw [hpath, String.ofList_toList]
  · rw [(assemble_cases hassemble).1]
    cases query with
    | none => rfl
    | some q =>
      simp [encode_of_safe (hquery q rfl)]

/-! ### Below a base -/

/-- The path of a base as that of a directory. -/
def directoryPath (base : Url) : String :=
  if base.path.toList.getLast? = some '/' then base.path else base.path ++ "/"

theorem getLast?_directoryPath (base : Url) :
    base.directoryPath.toList.getLast? = some '/' := by
  rw [directoryPath]
  split
  · next h => exact h
  · rw [String.toList_append]
    exact List.getLast?_concat

/-- The directory of a base without a query. -/
theorem directory_eq {base : Url} (hbase : base.IsSettled) (hquery : base.query = none)
    (h : base.directory = .ok d) :
    d.IsSettled ∧ d.target = base.directoryPath ∧ d.query = none := by
  have htarget := target_of_query_none hquery
  rw [directory] at h
  split at h
  · next hslash =>
    cases h
    refine ⟨hbase, ?_, hquery⟩
    rw [htarget] at hslash ⊢
    rw [directoryPath]
    split at hslash
    · next hempty =>
      rw [hempty]
      rfl
    · next hpath => rw [if_neg hpath, if_pos hslash]
  · next hslash =>
    have hpath : base.path ≠ "" := by
      intro hempty
      rw [htarget, hempty] at hslash
      exact hslash rfl
    rw [htarget, if_neg hpath] at hslash h
    have htext : base.path ++ "/" = targetText (base.path ++ "/") none := String.append_empty.symm
    rw [htext] at h
    obtain ⟨hsettled, hd, hdquery⟩ := withTarget_eq h
      (by
        rw [String.toList_append]
        exact List.forall_mem_append.mpr
          ⟨hbase.isPathSafe_of_mem, List.forall_mem_singleton.mpr (by decide)⟩)
      (fun hplaced => by
        rw [String.toList_append]
        exact noDots_append_slash_iff.mpr ⟨hbase.noDots hplaced, noDots_nil⟩)
      nofun
    refine ⟨hsettled, ?_, hdquery⟩
    rw [target_of_query_none hdquery, hd, if_neg (by simp), directoryPath, if_neg hslash]

/-- The path of a page below a base. -/
structure IsPage (page : String) : Prop where
  ne_empty : page ≠ ""
  ne_slash : page.toList.head? ≠ some '/'
  isPathSafe_of_mem : ∀ c ∈ page.toList, isPathSafe c = true
  noDots : NoDots page.toList

instance (page : String) : Decidable (IsPage page) :=
  decidable_of_iff (page ≠ "" ∧ page.toList.head? ≠ some '/' ∧
      page.toList.all isPathSafe = true ∧ NoDots page.toList)
    ⟨fun ⟨hempty, hslash, hsafe, hdots⟩ => ⟨hempty, hslash, List.all_eq_true.mp hsafe, hdots⟩,
      fun h => ⟨h.ne_empty, h.ne_slash, List.all_eq_true.mpr h.isPathSafe_of_mem, h.noDots⟩⟩

/-- A page begins with something else than a slash. -/
theorem IsPage.exists_cons {page : String} (h : IsPage page) :
    ∃ c cs, page.toList = c :: cs ∧ c ≠ '/' := by
  rcases hchars : page.toList with _ | ⟨c, cs⟩
  · exact absurd (String.toList_eq_nil_iff.mp hchars) h.ne_empty
  · refine ⟨c, cs, rfl, ?_⟩
    rintro rfl
    exact h.ne_slash (by rw [hchars, List.head?_cons])

/-- The slashes before a page are not part of it. -/
theorem dropWhile_targetText {page : String} (query : Option String) (hpage : IsPage page) :
    String.ofList ((targetText ("/" ++ page) query).toList.dropWhile (· = '/')) =
      targetText page query := by
  obtain ⟨c, cs, hchars, hslash⟩ := hpage.exists_cons
  have htext : (targetText ("/" ++ page) query).toList =
      '/' :: c :: (cs ++ (query.map fun q => '?' :: q.toList).getD []) := by
    rw [toList_targetText, String.toList_append, hchars]
    rfl
  rw [htext, List.dropWhile_cons_of_pos (by decide),
    List.dropWhile_cons_of_neg (by simpa using hslash), ← List.cons_append, ← hchars,
    ← toList_targetText, String.ofList_toList]

/-- A path with a query that begins with one slash is split into these two. -/
theorem split_page {page : String} {query : Option String} (hpage : IsPage page)
    (hquery : ∀ q ∈ query, ∀ c ∈ q.toList, isQuerySafe c = true) :
    split (targetText ("/" ++ page) query).toList = { path := "/" ++ page, query } := by
  have htext : (targetText ("/" ++ page) query).toList =
      '/' :: (page.toList ++ (query.map fun q => '?' :: q.toList).getD []) := by
    rw [toList_targetText, String.toList_append]
    rfl
  have hscheme (cs : List Char) : takeScheme ('/' :: cs) = ([], '/' :: cs) := rfl
  have hauthority : takeAuthority
      ('/' :: (page.toList ++ (query.map fun q => '?' :: q.toList).getD [])) =
      ([], '/' :: (page.toList ++ (query.map fun q => '?' :: q.toList).getD [])) := by
    -- an authority would begin with a second slash
    obtain ⟨c, cs, hchars, hslash⟩ := hpage.exists_cons
    rw [hchars, List.cons_append, takeAuthority]
    intro rest hrest
    exact hslash (List.cons.inj (List.cons.inj hrest).2).1
  have hcut : cutAt ['?', '#']
      ('/' :: (page.toList ++ (query.map fun q => '?' :: q.toList).getD [])) =
      ('/' :: page.toList, (query.map fun q => '?' :: q.toList).getD []) := by
    rw [← List.cons_append]
    refine cutAt_append (fun c hc => ?_) fun c hc => ?_
    · refine contains_eq_false (show ['?', '#'].any isPathSafe = false by decide) ?_
      rcases List.mem_cons.mp hc with rfl | hc
      · decide
      · exact hpage.isPathSafe_of_mem c hc
    · rw [head?_query c hc]
      rfl
  have hmarked : takeMarked '?' ['#'] ((query.map fun q => '?' :: q.toList).getD []) =
      (query, []) := by
    cases query with
    | none => rfl
    | some q =>
      have hq : cutAt ['#'] (q.toList ++ []) = (q.toList, []) :=
        cutAt_append (fun c hc => contains_eq_false (by decide) (hquery q rfl c hc)) nofun
      rw [List.append_nil] at hq
      simp [takeMarked, hq]
  rw [htext, split, hscheme]
  dsimp only
  rw [hauthority]
  dsimp only
  rw [hcut]
  dsimp only
  rw [hmarked]
  simp [takeMarked]

/-- What is read from a path with a query that begins with one slash. -/
theorem parse_page {page : String} {query : Option String} (hpage : IsPage page)
    (hquery : ∀ q ∈ query, ∀ c ∈ q.toList, isQuerySafe c = true)
    (h : parse (targetText ("/" ++ page) query) = .ok u) :
    u.isAbsolute = false ∧ u.target = targetText ("/" ++ page) query := by
  rw [parse] at h
  split at h
  · cases h
  split at h
  · cases h
  rw [split_page hpage hquery] at h
  have hpath := path_eq_of_assemble h
    (by
      rw [String.toList_append]
      exact List.forall_mem_append.mpr
        ⟨List.forall_mem_singleton.mpr (by decide), hpage.isPathSafe_of_mem⟩)
    (by simp)
  obtain ⟨hq, ⟨hplaced, -⟩ | ⟨⟨hscheme, -⟩, -⟩⟩ := assemble_cases h
  · exact absurd hplaced (by simp)
  · have hsame : query.map (encode isQuerySafe) = query := by
      cases query with
      | none => rfl
      | some q => exact congrArg some (encode_of_safe (hquery q rfl))
    refine ⟨by simp [isAbsolute, hscheme], ?_⟩
    rw [target_eq, hpath, hq, hsame, if_neg (by simp)]

/-- **A page below a directory** has the path of the directory and its own, one after the other, and
its own query. -/
theorem extend_page {page : String} {query : Option String} (hd : d.IsSettled)
    (hdquery : d.query = none) (hslash : d.target.toList.getLast? = some '/')
    (hpage : IsPage page) (hquery : ∀ q ∈ query, ∀ c ∈ q.toList, isQuerySafe c = true)
    (h : d.extend (targetText ("/" ++ page) query) = .ok u) :
    u.IsSettled ∧ u.path = d.target ++ page ∧ u.query = query := by
  rw [extend] at h
  rcases hparse : parse (targetText ("/" ++ page) query) with fault | r
  · rw [hparse] at h
    cases h
  obtain ⟨habsolute, htarget⟩ := parse_page hpage hquery hparse
  rw [hparse] at h
  simp only [bind, Except.bind, habsolute, Bool.false_eq_true, if_false] at h
  have htext : d.target ++ targetText page query = targetText (d.target ++ page) query :=
    String.append_assoc.symm
  rw [htarget, dropWhile_targetText query hpage, htext] at h
  have hdtarget := target_of_query_none hdquery
  refine withTarget_eq h ?_ ?_ hquery
  · rw [String.toList_append]
    refine List.forall_mem_append.mpr ⟨?_, hpage.isPathSafe_of_mem⟩
    rw [hdtarget]
    split
    · exact List.forall_mem_singleton.mpr (by decide)
    · exact hd.isPathSafe_of_mem
  · -- the directory ends in a slash, so its dot segments and those of the page stay apart
    intro hplaced
    obtain ⟨front, hfront⟩ : ∃ front, d.target.toList = front ++ ['/'] :=
      List.getLast?_eq_some_iff.mp hslash
    have hdots : NoDots d.target.toList := by
      rw [hdtarget]
      split
      · exact noDots_append_slash_iff.mpr ⟨noDots_nil, noDots_nil⟩
      · exact hd.noDots hplaced
    rw [hfront] at hdots
    rw [String.toList_append, hfront, List.append_assoc]
    exact noDots_append_slash_iff.mpr ⟨(noDots_append_slash_iff.mp hdots).1, hpage.noDots⟩

/-- An address with the fields of a form keeps its path. -/
theorem withForm_eq {fields : List (String × String)} (hu : u.IsSettled)
    (h : u.withForm fields = .ok d) :
    d.path = u.path ∧ d.query = some (encode isQuerySafe ("&".intercalate
      (fields.map fun f => Percent.encodeForm f.1 ++ "=" ++ Percent.encodeForm f.2))) := by
  have hassemble := assemble_of_rebuild h
  refine ⟨path_eq_of_assemble hassemble hu.isPathSafe_of_mem hu.noDots, ?_⟩
  rw [(assemble_cases hassemble).1]
  rfl

end Url

end Lockable
