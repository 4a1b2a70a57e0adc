import Lockable.Audit.Record
import Lockable.Text.Utf8

/-!
# The files of a log

What is written to a log goes to the end of its **open file**. If the next line would fill that
file, it is first put aside, and a new one is opened. Of the files that are put aside the last few
are kept, and older ones are lost.

All of them may have been there before the log was opened. What they held then counts for their
sizes (`LogFile.octets`) and is not told of any further. Of the files put aside none is missing
between two others.
-/

namespace Lockable.Audit

/-- The octets at which a file is full. -/
def fullAt : Nat := 2 * 1024 * 1024

/-- How many files are kept aside. -/
def keptAside : Nat := 3

/-- Whether a line fills a file of so many octets. Of the line itself the characters are counted,
with its end. -/
def fills (octets : Nat) (line : String) : Bool := fullAt ≤ octets + (line.length + 1)

/-- The octets that the line of a record takes up, with its end. A record without a line takes up
none. -/
def Record.octets (r : Record) : Nat :=
  match r.line with
  | .ok line => (Utf8.encode line.toList).length + 1
  | .error _ => 0

/-- One file of a log: the octets that it holds, and the records that were written to it. -/
structure LogFile where
  octets : Nat := 0
  records : List Record := []

/-- The file with one more record. -/
def LogFile.add (r : Record) (f : LogFile) : LogFile where
  octets := f.octets + r.octets
  records := f.records ++ [r]

/-- The files of a log: the open one, and those that are put aside, the latest first. -/
structure Log where
  current : LogFile := {}
  aside : List LogFile := []

namespace Log

/-- Puts the open file aside. -/
def rollOver (x : Log) : Log where
  aside := (x.current :: x.aside).take keptAside

/-- Writes a record. One that has no line changes nothing. -/
def write (x : Log) (r : Record) : Log :=
  match r.line with
  | .error _ => x
  | .ok line =>
    let x := if fills x.current.octets line then x.rollOver else x
    { x with current := x.current.add r }

/-- Writes records one after another. -/
def writeAll (x : Log) (records : List Record) : Log := records.foldl write x

/-- The records that are still there, in the order in which they were written. -/
def held (x : Log) : List Record :=
  x.aside.reverse.flatMap LogFile.records ++ x.current.records

end Log

end Lockable.Audit
