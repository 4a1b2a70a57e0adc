import Mathlib.Logic.Basic
import Lockable.Audit.Trail

/-!
# What is written to a trail

A trail that has a log open writes to it every record that is grave enough and has a line, in order,
and nothing else is written to it (`Audit.Trail.entries_logAll`). Records whose message is complete
have a line, and the loggers of this library are heard at the level of the trail.

How much of what is written the files of the log still hold is another matter
(`Audit.Trail.log?`).
-/

namespace Lockable.Audit

variable {t : Trail} {r : Record} {place : List String}

namespace Record

/-- The line of the record carries this value under the key. -/
def Carries (r : Record) (key : String) (value : Json) : Prop := (key, value) ∈ r.context

/-- What a line carries was set, and is one of the keys of the trail. -/
theorem carries_iff {key : String} {value : Json} :
    r.Carries key value ↔ key ∈ contextKeys ∧ Keyed.find? key r.attributes = some value := by
  simp only [Carries, context, List.mem_filterMap, Option.map_eq_some_iff, Prod.mk.injEq]
  constructor
  · rintro ⟨_, hkey, _, hvalue, rfl, rfl⟩
    exact ⟨hkey, hvalue⟩
  · rintro ⟨hkey, hvalue⟩
    exact ⟨key, hkey, value, hvalue, rfl, rfl⟩

/-- What a line holds, where there is a moment and a message and no exception. -/
theorem entry_eq {stamp message : String} (hstamp : Timestamp.text r.created = .ok stamp)
    (hmessage : r.message = .ok message) (hexception : r.exceptionText = .ok none) :
    r.entry = .ok (.object ([("timestamp", .text stamp), ("level", r.levelName),
      ("logger", r.logger), ("message", .text message)] ++ r.context)) := by
  rw [entry, hstamp, hmessage, hexception]
  exact congrArg (fun members => Except.ok (Json.object members)) (List.append_nil _)

/-- What a record carries can be shown if its attributes can. -/
theorem showable_context (h : ∀ e ∈ r.attributes, e.2.showable = true) :
    ∀ e ∈ r.context, e.2.showable = true := by
  rintro ⟨key, value⟩ he
  exact h _ (Keyed.mem_of_find? (carries_iff.mp he).2)

/-- The record can be written, and its logger is heard at the level of the trail. -/
structure Heard (r : Record) : Prop where
  written : ∃ line, r.line = .ok line
  threshold : ∀ t : Trail, t.threshold r.logger.display = t.level

/-- Attributes that do not stand in the way of a line. -/
structure Orderly (attributes : List (String × Json)) : Prop where
  message : Keyed.find? "getMessage" attributes = none
  exception : Keyed.find? "exc_info" attributes = none
  showable : ∀ e ∈ attributes, e.2.showable = true

/-- A record with a message that is complete has a line. -/
theorem exists_line_plain (logger : String) (level : Level) (message : String)
    {attributes : List (String × Json)} (h : Orderly attributes) :
    ∃ line, (Record.plain logger level message attributes).line = .ok line := by
  have hmessage : (Record.plain logger level message attributes).message = .ok message := by
    rw [Record.message, plain, h.message]
    rfl
  have hexception : (Record.plain logger level message attributes).exceptionText = .ok none := by
    rw [exceptionText, plain, h.exception]
    rfl
  have hcontext := showable_context (r := .plain logger level message attributes) h.showable
  rw [line, entry_eq rfl hmessage hexception]
  refine ⟨_, if_pos ?_⟩
  rw [Json.showable_object_iff, List.forall_mem_append]
  exact ⟨by simp [plain], hcontext⟩

/-- A logger that is not chatty is heard at the level of the trail. -/
theorem heard_plain {logger : String} (level : Level) (message : String)
    {attributes : List (String × Json)}
    (h : (Trail.chatty.any fun c => logger = c || (c ++ ".").toList.isPrefixOf logger.toList) =
      false) (hattributes : Orderly attributes) :
    Heard (.plain logger level message attributes) where
  written := exists_line_plain logger level message hattributes
  threshold t := by
    have hlogger : (Record.plain logger level message attributes).logger.display = logger := rfl
    rw [hlogger, Trail.threshold, h, Bool.and_false]
    rfl

end Record

namespace Trail

/-- The records that were written to the log of a directory. -/
def entries (place : List String) (t : Trail) : List Record :=
  (Keyed.find? place t.files).getD []

/-- The log of the directory is there and open. -/
structure Opened (place : List String) (t : Trail) : Prop where
  openFile : t.openFile = some place
  isThere : (Keyed.find? place t.files).isSome

/-- Creating a log adds an empty one at most. -/
theorem find?_createFile (place : List String) (t : Trail) :
    Keyed.find? place (t.createFile place).files = some (t.entries place) := by
  rw [createFile, entries]
  rcases hfind : Keyed.find? place t.files with _ | records
  · have hnew : place ∉ t.files.map Prod.fst := Keyed.find?_eq_none_iff.mp hfind
    have hfiles : t.files ++ [(place, [])] = Keyed.insert place [] t.files :=
      (Keyed.insert_of_notMem hnew []).symm
    rw [Option.isSome_none, if_neg Bool.false_ne_true]
    dsimp only
    rw [hfiles, Keyed.find?_insert_self]
    rfl
  · rw [Option.isSome_some, if_pos rfl, hfind]
    rfl

/-- A trail that is configured has a log open, with what was written to it before. -/
theorem exists_opened_of_configure {environment : List (String × String)} {level : Json}
    {given : Option String} {console : Bool} {t' : Trail}
    (h : t.configure environment level given console = (t', .ok ())) :
    ∃ place, t'.Opened place ∧ t'.entries place = t.entries place := by
  let place := directory environment given
  have hfile := find?_createFile place t
  unfold configure at h
  split at h
  · dsimp only at h
    split at h
    · cases h
    · cases h
      refine ⟨place, ⟨rfl, Option.isSome_iff_exists.mpr ⟨_, hfile⟩⟩, ?_⟩
      have hentries : (Keyed.find? place (t.createFile place).files).getD [] = t.entries place := by
        rw [hfile]
        rfl
      exact hentries
  · cases h

theorem logAll_append (t : Trail) (records records' : List Record) :
    t.logAll (records ++ records') = (t.logAll records).logAll records' :=
  List.foldl_append

/-- What is written to a log that is there. -/
theorem find?_map_append (records : List Record) {files : List (List String × List Record)} :
    Keyed.find? place (files.map fun f => if f.1 = place then (f.1, f.2 ++ records) else f) =
      (Keyed.find? place files).map (· ++ records) := by
  induction files with
  | nil => rfl
  | cons f rest ih =>
    obtain ⟨k, v⟩ := f
    by_cases hk : k = place
    · simp [Keyed.find?, hk]
    · simp [Keyed.find?, hk, ih]

/-- One record: it goes to the log if it is grave enough. -/
theorem log_of_heard (ht : Opened place t) (hr : r.Heard) :
    Opened place (t.log r.logger.display r) ∧ (t.log r.logger.display r).level = t.level ∧
      (t.log r.logger.display r).entries place =
        t.entries place ++ [r].filter fun r => t.level ≤ r.level := by
  obtain ⟨line, hline⟩ := hr.written
  rw [log, hr.threshold]
  by_cases hlevel : t.level ≤ r.level
  · have hfiles : (t.write r).files =
        t.files.map fun f => if f.1 = place then (f.1, f.2 ++ [r]) else f := by
      rw [write, hline]
      dsimp only
      rw [ht.openFile]
    have hopenFile : (t.write r).openFile = some place := by
      rw [write, hline]
      exact ht.openFile
    have hsame : (t.write r).level = t.level := by
      rw [write, hline]
    obtain ⟨records, hrecords⟩ := Option.isSome_iff_exists.mp ht.isThere
    rw [if_pos hlevel]
    refine ⟨⟨hopenFile, ?_⟩, hsame, ?_⟩
    · rw [hfiles, find?_map_append, hrecords]
      rfl
    · rw [entries, entries, hfiles, find?_map_append, hrecords]
      simp [hlevel]
  · rw [if_neg hlevel]
    exact ⟨ht, rfl, by simp [hlevel]⟩

/-- **What is logged is written to the log**, in order, as far as it is grave enough. -/
theorem entries_logAll {records : List Record} (ht : Opened place t) (h : ∀ r ∈ records, r.Heard) :
    Opened place (t.logAll records) ∧ (t.logAll records).level = t.level ∧
      (t.logAll records).entries place =
        t.entries place ++ records.filter fun r => t.level ≤ r.level := by
  induction records generalizing t with
  | nil => exact ⟨ht, rfl, (List.append_nil _).symm⟩
  | cons r rest ih =>
    obtain ⟨hr, hrest⟩ := List.forall_mem_cons.mp h
    obtain ⟨hopened, hlevel, hentries⟩ := log_of_heard ht hr
    obtain ⟨hopened', hlevel', hentries'⟩ := ih hopened hrest
    have hcons : t.logAll (r :: rest) = (t.log r.logger.display r).logAll rest := rfl
    rw [hcons]
    refine ⟨hopened', hlevel'.trans hlevel, ?_⟩
    rw [hentries', hentries, hlevel, List.append_assoc, ← List.filter_append]
    rfl

end Trail

end Lockable.Audit
