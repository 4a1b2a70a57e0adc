import Mathlib.Data.List.Infix
import Lockable.Proofs.Trail.File

/-!
# What the files of a log hold

The files of a log hold the **latest** of what was written (`Audit.Log.held_writeAll_suffix`), so
what is lost was written before all that is there. As long as the open file is not full, nothing is
put aside, and it holds all that was written (`Audit.Log.writeAll_of_room`).

For a trail this says what becomes of the records that it lists (`Audit.Trail.exists_log`).
-/

namespace Lockable

/-- Every character takes up an octet at least. -/
theorem Utf8.length_le_length_encode (cs : List Char) : cs.length ≤ (encode cs).length := by
  have hchar (c : Char) : 1 ≤ (encodeChar c).length := by
    rw [encodeChar]
    split_ifs <;> simp
  induction cs with
  | nil => exact Nat.zero_le _
  | cons c rest ih =>
    rw [encode, List.flatMap_cons, List.length_append, List.length_cons, Nat.add_comm]
    exact Nat.add_le_add (hchar c) ih

namespace Audit

variable {x : Log} {r : Record} {records : List Record}

namespace Record

/-- The record has a line. -/
def Written (r : Record) : Prop := ∃ line, r.line = .ok line

/-- The octets that records take up. -/
def totalOctets : List Record → Nat
  | [] => 0
  | r :: rest => r.octets + totalOctets rest

end Record

open Record (Written totalOctets)

namespace Log

/-- Putting a file aside loses the oldest files at most. -/
theorem held_rollOver_suffix (x : Log) : x.rollOver.held <:+ x.held := by
  let files := x.current :: x.aside
  -- what is held begins with the oldest file, so those that are dropped are a prefix of it
  have hkept : x.rollOver.held = (files.take keptAside).reverse.flatMap LogFile.records :=
    List.append_nil _
  have hall : x.held = (files.drop keptAside).reverse.flatMap LogFile.records ++
      (files.take keptAside).reverse.flatMap LogFile.records := by
    rw [← List.flatMap_append, ← List.reverse_append, List.take_append_drop, List.reverse_cons,
      List.flatMap_append, List.flatMap_singleton]
    rfl
  rw [hall, hkept]
  exact List.suffix_append _ _

/-- Once a record is written, the files hold it, and before it the latest of what they held. -/
theorem held_write_suffix (hr : r.Written) : (x.write r).held <:+ x.held ++ [r] := by
  obtain ⟨line, hline⟩ := hr
  have hadd (x : Log) : ({ x with current := x.current.add r } : Log).held = x.held ++ [r] :=
    (List.append_assoc _ _ _).symm
  rw [write, hline]
  dsimp only
  rw [hadd, List.suffix_append_self_iff]
  split
  · exact held_rollOver_suffix x
  · exact List.suffix_refl _

/-- **The files hold the latest of what was written.** -/
theorem held_writeAll_suffix (h : ∀ r ∈ records, r.Written) :
    (x.writeAll records).held <:+ x.held ++ records := by
  induction records generalizing x with
  | nil =>
    rw [List.append_nil]
    exact List.suffix_refl _
  | cons r rest ih =>
    obtain ⟨hr, hrest⟩ := List.forall_mem_cons.mp h
    have hafter : (x.write r).held ++ rest <:+ x.held ++ [r] ++ rest :=
      List.suffix_append_self_iff.mpr (held_write_suffix hr)
    rw [List.append_cons]
    exact (ih hrest).trans hafter

/-- No more files are kept aside than may be. -/
theorem length_aside_writeAll (h : x.aside.length ≤ keptAside) :
    (x.writeAll records).aside.length ≤ keptAside := by
  induction records generalizing x with
  | nil => exact h
  | cons r rest ih =>
    refine ih ?_
    rw [write]
    split
    · exact h
    · dsimp only
      split
      · exact List.length_take_le _ _
      · exact h

/-- A record for which there is room is written to the open file. -/
theorem write_of_room (hr : r.Written) (hroom : x.current.octets + r.octets < fullAt) :
    x.write r = { x with current := x.current.add r } := by
  obtain ⟨line, hline⟩ := hr
  have hlength := Utf8.length_le_length_encode line.toList
  have hfills : fills x.current.octets line = false := by
    rw [Record.octets, hline] at hroom
    dsimp only at hroom
    rw [String.length_toList] at hlength
    exact decide_eq_false (by omega)
  rw [write, hline]
  dsimp only
  rw [hfills, if_neg Bool.false_ne_true]

/-- **Where there is room for all, the open file holds all that was written**, and no file is put
aside. -/
theorem writeAll_of_room (h : ∀ r ∈ records, r.Written)
    (hroom : x.current.octets + totalOctets records < fullAt) :
    (x.writeAll records).current.records = x.current.records ++ records ∧
      (x.writeAll records).aside = x.aside := by
  induction records generalizing x with
  | nil => exact ⟨(List.append_nil _).symm, rfl⟩
  | cons r rest ih =>
    obtain ⟨hr, hrest⟩ := List.forall_mem_cons.mp h
    -- once the first record is written, what was room for all is room for the rest
    rw [totalOctets, ← Nat.add_assoc] at hroom
    have hwrite := write_of_room hr (Nat.lt_of_le_of_lt (Nat.le_add_right _ _) hroom)
    have hcons : x.writeAll (r :: rest) = (x.write r).writeAll rest := rfl
    rw [hcons, hwrite]
    obtain ⟨hcurrent, haside⟩ := ih (x := { x with current := x.current.add r }) hrest hroom
    exact ⟨hcurrent.trans (List.append_cons _ _ _).symm, haside⟩

end Log

/-- **What the files of a trail hold.** Let a trail have a log open, with whatever files, and log
records that can be heard. The files then hold the latest of what they held and of what is grave
enough, and all of that is in the open file if there is room for it. -/
theorem Trail.exists_log {t : Trail} {place : List String} {before : Log} (ht : Opened place t)
    (hx : t.log? before place = some x) (h : ∀ r ∈ records, r.Heard) :
    let written := records.filter fun r => t.level ≤ r.level
    ∃ x', (t.logAll records).log? before place = some x' ∧ x'.held <:+ x.held ++ written ∧
      (x.current.octets + totalOctets written < fullAt →
        x'.current.records = x.current.records ++ written ∧ x'.aside = x.aside) := by
  intro written
  obtain ⟨hopened, -, hentries⟩ := entries_logAll ht h
  have hwritten : ∀ r ∈ written, r.Written := fun r hr => (h r (List.mem_filter.mp hr).1).written
  refine ⟨x.writeAll written, ?_, Log.held_writeAll_suffix hwritten, Log.writeAll_of_room hwritten⟩
  obtain ⟨old, hold, rfl⟩ := Option.map_eq_some_iff.mp hx
  obtain ⟨all, hall⟩ := Option.isSome_iff_exists.mp hopened.isThere
  rw [entries, entries, hold, hall] at hentries
  have hlisted : all = old ++ written := hentries
  rw [log?, hall, hlisted]
  exact congrArg some List.foldl_append

end Audit

end Lockable
