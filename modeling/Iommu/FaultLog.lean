/-
  Fault logs: the newest records, oldest first.

  A log keeps at most `capacity` records, never fewer than one; what does not fit is discarded from
  the old end (`size_record_le`).  Recording answers whether the oldest record was lost, and a change of
  capacity how many were.
-/
import Iommu.Fault

namespace Iommu

/-- A bounded log of faults. -/
structure FaultLog where
  records : List FaultRecord
  capacity : Nat
deriving DecidableEq

namespace FaultLog

/-- The capacity of a log for which none is asked. -/
def defaultCapacity : Nat := 1024

/-- An empty log; capacity zero counts as one. -/
def ofCapacity (capacity : Nat) : FaultLog := ⟨[], max 1 capacity⟩

instance : Inhabited FaultLog := ⟨ofCapacity defaultCapacity⟩

/-- Number of records. -/
def size (l : FaultLog) : Nat := l.records.length

/-- How many records are too many. -/
def excess (l : FaultLog) : Nat := l.size - l.capacity

/-- The log with only its newest records. -/
def trim (l : FaultLog) : FaultLog := { l with records := l.records.drop l.excess }

/-- The log with one more record, before trimming. -/
def append (l : FaultLog) (r : FaultRecord) : FaultLog := { l with records := l.records ++ [r] }

/-- Records a fault.  The flag says whether the oldest record was discarded to make room. -/
def record (l : FaultLog) (r : FaultRecord) : FaultLog × Bool :=
  ((l.append r).trim, 0 < (l.append r).excess)

/-- Changes the capacity.  The number is how many old records were discarded. -/
def setCapacity (l : FaultLog) (capacity : Nat) : FaultLog × Nat :=
  let resized := { l with capacity := max 1 capacity }
  (resized.trim, resized.excess)

/-- The log without records. -/
def clear (l : FaultLog) : FaultLog := { l with records := [] }

/-- The records of one stream. -/
def ofStream (l : FaultLog) (stream : StreamId) : List FaultRecord :=
  l.records.filter fun r => r.stream = stream

/-- How many records have a class. -/
def countOf (l : FaultLog) (kind : FaultKind) : Nat :=
  l.records.countP fun r => r.kind = kind

theorem size_trim_le (l : FaultLog) : l.trim.size ≤ l.trim.capacity := by
  simp only [trim, size, excess, List.length_drop]
  omega

/-- A log never exceeds its capacity after recording. -/
theorem size_record_le (l : FaultLog) (r : FaultRecord) :
    (l.record r).1.size ≤ (l.record r).1.capacity :=
  size_trim_le _

end FaultLog

end Iommu
