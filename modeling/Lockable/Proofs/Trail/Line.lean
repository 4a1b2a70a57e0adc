import Lockable.Proofs.Form
import Lockable.Proofs.Json.RoundTrip
import Lockable.Proofs.Trail.File

/-!
# One line for each record

A record without an exception becomes **one line that says the record and nothing else**
(`Audit.Record.line_decodes`): whatever its message and its attributes are, no character of the line
can end it, and the line is read back as an object with the four fixed keys and the keys of the
trail that the record carries, each once and with its value.

So a file of such lines falls into them again, whatever was logged
(`Audit.exists_lines_of_records`). What is asked of a record is `Audit.Record.Writable`: there is no
line at all without a moment that has a text, which those of the years from 1 to 9999 have, without
a message, or with an integer that is too long (`Audit.Record.exists_line_iff`). An attribute can
take the message away (`Audit.Record.line_missing`).
-/

namespace Lockable

/-! ### Moments -/

/-- The days of the years from 1 to 9999. -/
theorem Calendar.year_ofDays_iff {days : Int} :
    1 ≤ (ofDays days).year ∧ (ofDays days).year ≤ 9999 ↔ -719162 ≤ days ∧ days ≤ 2932896 := by
  have hfdiv : (days + 719468).fdiv 146097 = (days + 719468) / 146097 :=
    Int.fdiv_eq_ediv_of_nonneg _ (by decide)
  rw [ofDays, hfdiv]
  dsimp only
  generalize hera : (days + 719468) / 146097 = era
  generalize hday : (days + 719468 - era * 146097).toNat = dayOfEra
  generalize hyear : (dayOfEra - dayOfEra / 1460 + dayOfEra / 36524 - dayOfEra / 146096) / 365 =
    yearOfEra
  have hbound : yearOfEra ≤ 399 := by omega
  have hfirst : yearOfEra = 0 ↔ dayOfEra < 365 := by omega
  have hlast : 146037 ≤ dayOfEra → yearOfEra = 399 := by omega
  clear hyear
  -- the year 1 begins in the first era and the year 9999 ends in the last, both between two Marches
  obtain hera' | hera' | hera' | hera' | hera' :
      era < 0 ∨ era = 0 ∨ (0 < era ∧ era < 24) ∨ era = 24 ∨ 24 < era := by omega
  all_goals split_ifs <;> omega

namespace Timestamp

/-- The moment is one of the years from 1 to 9999. -/
def InCalendar (moment : Json) : Prop :=
  ∃ n, seconds moment = .ok n ∧ -62135596800 ≤ n ∧ n < 253402300800

/-- Just the moments of these years have a text. -/
theorem exists_text_iff {moment : Json} :
    (∃ stamp, text moment = .ok stamp) ↔ InCalendar moment := by
  cases hseconds : seconds moment with
  | error e => simp [text, InCalendar, hseconds, bind, Except.bind]
  | ok n =>
    have hdays : n.fdiv 86400 = n / 86400 := Int.fdiv_eq_ediv_of_nonneg _ (by decide)
    have hyear := @Calendar.year_ofDays_iff (n.fdiv 86400)
    have hcalendar : InCalendar moment ↔ -62135596800 ≤ n ∧ n < 253402300800 := by
      simp [InCalendar, hseconds]
    rw [hcalendar, text, hseconds]
    dsimp only [bind, Except.bind]
    split_ifs with hplatform hrange
    · simp
      omega
    · simp
      omega
    · simp [pure, Except.pure]
      omega

end Timestamp

namespace Audit

open Json (Standard)

variable {r : Record} {message stamp key : String}

namespace Record

/-! ### The members of a line -/

/-- The keys that every line begins with. -/
def fixedKeys : List String := ["timestamp", "level", "logger", "message"]

/-- The keys of the trail that the record carries, in their order. -/
def carriedKeys (r : Record) : List String :=
  contextKeys.filter fun key => (Keyed.find? key r.attributes).isSome

/-- The members of the line of a record without an exception. -/
def members (stamp message : String) (r : Record) : List (String × Json) :=
  [("timestamp", .text stamp), ("level", r.levelName), ("logger", r.logger),
    ("message", .text message)] ++ r.context

/-- No fixed key is a key of the trail, and no key is there twice. -/
theorem nodup_keys : (fixedKeys ++ contextKeys).Nodup := by decide

theorem map_fst_context (r : Record) : r.context.map Prod.fst = r.carriedKeys := by
  rw [context, carriedKeys]
  induction contextKeys with
  | nil => rfl
  | cons key rest ih =>
    cases hvalue : Keyed.find? key r.attributes <;> simp [hvalue, ih]

theorem map_fst_members : (r.members stamp message).map Prod.fst = fixedKeys ++ r.carriedKeys := by
  rw [members, List.map_append, map_fst_context]
  rfl

/-- No line has a key twice. -/
theorem nodup_map_fst_members : ((r.members stamp message).map Prod.fst).Nodup := by
  rw [map_fst_members]
  exact nodup_keys.sublist (List.filter_sublist.append_left fixedKeys)

/-- Under a key of the trail a line says what the record carries, and nothing if it carries
nothing. -/
theorem find?_members (hkey : key ∈ contextKeys) :
    Keyed.find? key (r.members stamp message) = Keyed.find? key r.attributes := by
  have hfixed : key ∉ fixedKeys := fun h =>
    (List.nodup_append.mp nodup_keys).2.2 key h key hkey rfl
  cases hvalue : Keyed.find? key r.attributes with
  | none =>
    rw [Keyed.find?_eq_none_iff, map_fst_members, List.mem_append, not_or]
    exact ⟨hfixed, fun h => by simp [carriedKeys, hvalue] at h⟩
  | some value =>
    rw [Keyed.find?_eq_some_iff nodup_map_fst_members]
    exact List.mem_append_right _ (carries_iff.mpr ⟨hkey, hvalue⟩)

/-! ### What can be written -/

theorem exists_ifShowable_iff {j : Json} {text : String} :
    (∃ line, j.ifShowable text = .ok line) ↔ j.showable = true := by
  rw [Json.ifShowable]
  split <;> simp [*]

/-- Just the records whose moment has a text, whose message can be filled in, whose exception can be
told and whose values can be shown have a line. -/
theorem exists_line_iff : (∃ line, r.line = .ok line) ↔
    Timestamp.InCalendar r.created ∧ (∃ message, r.message = .ok message) ∧
      (∃ exception, r.exceptionText = .ok exception) ∧ r.levelName.showable = true ∧
        r.logger.showable = true ∧ ∀ e ∈ r.context, e.2.showable = true := by
  rw [← Timestamp.exists_text_iff, line, entry]
  rcases Timestamp.text r.created with e | stamp
  · simp [bind, Except.bind]
  · rcases r.message with e | message
    · simp [bind, Except.bind]
    · rcases r.exceptionText with e | exception
      · simp [bind, Except.bind]
      · have hexception : ∀ e ∈ (exception.map fun text => ("exception", Json.text text)).toList,
            e.2.showable = true := by
          cases exception <;> simp
        refine Iff.trans exists_ifShowable_iff ?_
        rw [Json.showable_object_iff, List.forall_mem_append, List.forall_mem_append,
          and_iff_left hexception]
        simp [and_assoc]

/-- The record **can be written** and says the message: its moment is one of the calendar, its
values are standard, and it has no exception. -/
structure Writable (r : Record) (message : String) : Prop where
  moment : Timestamp.InCalendar r.created
  message : r.message = .ok message
  levelName : r.levelName.Standard
  logger : r.logger.Standard
  attributes : ∀ e ∈ r.attributes, e.2.Standard
  exception : r.exceptionText = .ok none

/-- What a line says is standard. -/
theorem Writable.standard (h : r.Writable message) (stamp : String) :
    Standard (.object (r.members stamp message)) := by
  refine .object nodup_map_fst_members ?_
  rw [members, List.forall_mem_append]
  constructor
  · simp [Standard.text, h.levelName, h.logger]
  · rintro ⟨key, value⟩ hmem
    exact h.attributes _ (Keyed.mem_of_find? (carries_iff.mp hmem).2)

/-- The members of the line of a record that can be written. -/
theorem Writable.exists_entry (h : r.Writable message) :
    ∃ stamp, Timestamp.text r.created = .ok stamp ∧
      r.entry = .ok (.object (r.members stamp message)) := by
  obtain ⟨stamp, hstamp⟩ := Timestamp.exists_text_iff.mpr h.moment
  exact ⟨stamp, hstamp, entry_eq hstamp h.message h.exception⟩

/-- A record that can be written has a line, which is read back as what it was written from. -/
theorem Writable.exists_line (h : r.Writable message) :
    ∃ stamp line, Timestamp.text r.created = .ok stamp ∧
      r.entry = .ok (.object (r.members stamp message)) ∧ r.line = .ok line ∧
      Json.read line = .ok (.object (r.members stamp message)) ∧
      ∀ c ∈ line.toList, 32 ≤ c.toNat := by
  obtain ⟨stamp, hstamp, hentry⟩ := h.exists_entry
  have hstandard := h.standard stamp
  have hline : r.line = .ok (Json.write (.object (r.members stamp message))) := by
    rw [line, hentry]
    exact if_pos hstandard.showable
  refine ⟨stamp, _, hstamp, hentry, hline, Json.read_write hstandard, ?_⟩
  rw [Json.write, String.toList_ofList]
  exact hstandard.le_toNat

/-! ### What a line says -/

/-- The line says **the record and nothing else**: these are its members. -/
structure SaidBy (r : Record) (message line : String) (said : List (String × Json)) : Prop where
  /-- The line is read back. -/
  read : Json.read line = .ok (.object said)
  /-- It has no control character in it. -/
  le_toNat : ∀ c ∈ line.toList, 32 ≤ c.toNat
  /-- Whatever is written before it and after it, between control characters it is one piece. -/
  alone : ∀ separator : Char → Bool, (∀ c, separator c = true → c.toNat < 32) →
    ∀ s s' before after, separator s = true → separator s' = true →
      Text.splitOn separator (before ++ s :: (line.toList ++ s' :: after)) =
        Text.splitOn separator before ++ line.toList :: Text.splitOn separator after
  /-- Its keys are the fixed ones and those of the trail that the record carries, each once. -/
  keys : said.map Prod.fst = fixedKeys ++ r.carriedKeys
  nodup : (said.map Prod.fst).Nodup
  message : Keyed.find? "message" said = some (.text message)
  level : Keyed.find? "level" said = some r.levelName
  logger : Keyed.find? "logger" said = some r.logger
  timestamp : ∃ stamp, Timestamp.text r.created = .ok stamp ∧
    Keyed.find? "timestamp" said = some (.text stamp)
  /-- Under a key of the trail it has what the record carries. -/
  carried : ∀ key ∈ contextKeys, Keyed.find? key said = Keyed.find? key r.attributes

/-- **A record is one line**, which is read back as the record and nothing else. -/
theorem line_decodes (h : r.Writable message) :
    ∃ line said, r.line = .ok line ∧ r.SaidBy message line said := by
  obtain ⟨stamp, line, hstamp, -, hline, hread, hchars⟩ := h.exists_line
  refine ⟨line, r.members stamp message, hline, ?_⟩
  exact {
    read := hread
    le_toNat := hchars
    alone := fun separator hseparator s s' before after hs hs' => by
      have hnone : ∀ c ∈ line.toList, separator c = false := fun c hc =>
        Bool.eq_false_iff.mpr fun hsep => absurd (hchars c hc) (not_le.mpr (hseparator c hsep))
      rw [Text.splitOn_append_cons before hs, Text.splitOn_append_cons line.toList hs',
        Text.splitOn_of_none hnone]
      rfl
    keys := map_fst_members
    nodup := nodup_map_fst_members
    message := rfl
    level := rfl
    logger := rfl
    timestamp := ⟨stamp, hstamp, rfl⟩
    carried := fun key hkey => find?_members hkey }

/-- A record whose texts try to end the line and to begin one of their own, with an attribute that
has the name of a fixed key and one that does not belong to the trail. -/
def forged : Record where
  created := .float (.ofDecimal ⟨false, 17000000005, -1⟩)
  logger := .text "lockable.client"
  template := .text "unlocked\"\x7d\r\n\x7b\"message\": \"stolen"
  attributes :=
    [("resource", .text "bench\\\", \"action\": \"steal\x07\n"),
      ("resources",
        .list [.object [("caf\u00e9\t", .float (.ofDecimal ⟨true, 1, -1⟩)), ("", .null)],
          .list []]),
      ("message", .text "stolen"), ("status", .int (-302)), ("lineno", .bool true)]

/-- Such a record is one line all the same. -/
theorem line_decodes_forged :
    forged.Writable "unlocked\"\x7d\r\n\x7b\"message\": \"stolen" ∧
      forged.carriedKeys = ["resource", "resources", "status"] ∧
      ∃ line said, forged.line = .ok line ∧
        forged.SaidBy "unlocked\"\x7d\r\n\x7b\"message\": \"stolen" line said := by
  have h : forged.Writable "unlocked\"\x7d\r\n\x7b\"message\": \"stolen" := {
    moment := ⟨1700000000, by decide +kernel, by decide, by decide⟩
    message := rfl
    levelName := .text _
    logger := .text _
    attributes := by
      simp only [forged, List.forall_mem_cons]
      refine ⟨.text _, .list ?_, .text _, .int (showable_of_lt (by decide)), .bool _,
        List.forall_mem_nil _⟩
      simp only [List.forall_mem_cons]
      refine ⟨.object (by decide) ?_, .list (List.forall_mem_nil _), List.forall_mem_nil _⟩
      simp only [List.forall_mem_cons]
      exact ⟨.float (by decide +kernel), .null, List.forall_mem_nil _⟩
    exception := rfl }
  exact ⟨h, by decide, line_decodes h⟩

/-- A record that carries an integer that is too long has no line. -/
theorem not_exists_line_of_carries {n : Int} (h : r.Carries key (.int n)) (hn : ¬Showable n) :
    ¬∃ line, r.line = .ok line := by
  intro hline
  obtain ⟨-, -, -, -, -, hshowable⟩ := exists_line_iff.mp hline
  exact hn (by simpa [Json.showable] using hshowable _ h)

/-- A record with a status of its own. -/
def withStatus (n : Int) : Record :=
  .plain "lockable.client" Level.info "unlocked" [("status", .int n)]

/-- A record with an attribute that has the name of what fills in the message has **no line**, nor
has one with an integer that is too long, nor one of the year 10000, though none has an
exception. -/
theorem line_missing :
    let named : Record := .plain "lockable.client" Level.info "x" [("getMessage", .text "x")]
    let long : Record := withStatus (Nat.pow 10 digitLimit : Nat)
    let late : Record := { withStatus 200 with created := .int 253402300800 }
    (named.exceptionText = .ok none ∧
        named.line = .error (.wrongType "'str' object is not callable")) ∧
      (long.exceptionText = .ok none ∧ ¬∃ line, long.line = .ok line) ∧
      late.exceptionText = .ok none ∧
        late.line = .error (.wrongValue "year 10000 is out of range") := by
  intro named long late
  have hcarries (n : Int) : (withStatus n).Carries "status" (.int n) :=
    carries_iff.mpr ⟨by decide, rfl⟩
  have hlong : ¬∃ line, long.line = .ok line :=
    not_exists_line_of_carries (hcarries _) (not_showable_of_le (Nat.le_refl _))
  exact ⟨⟨rfl, by decide +kernel⟩, ⟨rfl, hlong⟩, rfl, by decide +kernel⟩

end Record

/-! ### Files -/

/-- The text of a file: each line with its end. -/
def fileText (lines : List String) : List Char := lines.flatMap fun line => line.toList ++ ['\n']

/-- A file falls into its lines. -/
theorem splitOn_fileText {lines : List String}
    (h : ∀ line ∈ lines, ∀ c ∈ line.toList, 32 ≤ c.toNat) :
    Text.splitOn (· == '\n') (fileText lines) = lines.map String.toList ++ [[]] := by
  induction lines with
  | nil => rfl
  | cons line rest ih =>
    obtain ⟨hline, hrest⟩ := List.forall_mem_cons.mp h
    have hnone : ∀ c ∈ line.toList, (c == '\n') = false := by
      intro c hc
      have hne : c ≠ '\n' := by
        rintro rfl
        exact absurd (hline _ hc) (by decide)
      simpa using hne
    have hcons : fileText (line :: rest) = line.toList ++ '\n' :: fileText rest := by
      simp [fileText]
    rw [hcons, Text.splitOn_append_cons line.toList (by decide), ih hrest,
      Text.splitOn_of_none hnone]
    rfl

/-- **A file falls into its records**, whatever was logged: one line for each of them, which is read
back as what was written. -/
theorem exists_lines_of_records {records : List Record}
    (h : ∀ r ∈ records, ∃ message, r.Writable message) :
    ∃ lines, List.Forall₂ (fun r line => r.line = .ok line ∧
        ∃ entry, r.entry = .ok entry ∧ Json.read line = .ok entry) records lines ∧
      Text.splitOn (· == '\n') (fileText lines) = lines.map String.toList ++ [[]] := by
  suffices hlines : ∃ lines, List.Forall₂ (fun r line => r.line = .ok line ∧
      ∃ entry, r.entry = .ok entry ∧ Json.read line = .ok entry) records lines ∧
      ∀ line ∈ lines, ∀ c ∈ line.toList, 32 ≤ c.toNat by
    obtain ⟨lines, hwritten, hchars⟩ := hlines
    exact ⟨lines, hwritten, splitOn_fileText hchars⟩
  induction records with
  | nil => exact ⟨[], .nil, List.forall_mem_nil _⟩
  | cons r rest ih =>
    obtain ⟨⟨message, hr⟩, hrest⟩ := List.forall_mem_cons.mp h
    obtain ⟨lines, hwritten, hchars⟩ := ih hrest
    obtain ⟨stamp, line, -, hentry, hline, hread, hline'⟩ := hr.exists_line
    exact ⟨line :: lines, .cons ⟨hline, _, hentry, hread⟩ hwritten,
      List.forall_mem_cons.mpr ⟨hline', hchars⟩⟩

end Audit

end Lockable
