/-
  What a fault log keeps of what was recorded in it.

  `Holds l n` says that the log has capacity `n`, which is not zero, and no more records than that.
  `Keeps l history lost` says that the log is `history` without its oldest `lost` records: nothing is
  skipped, nothing is out of order, and what is missing is the old end.  A smaller capacity adds to what is
  lost the number it answers.  Recording adds the newest record to the history and answers whether the
  oldest was lost for it; that this is one record and not several is because the log was within its
  capacity before (`excess_append`).
-/
import Iommu.FaultLog

namespace Iommu.FaultLog

/-! ## Room -/

/-- The log has a capacity, which is not zero, and no more records than that. -/
structure Holds (l : FaultLog) (n : Nat) : Prop where
  positive : 0 < n
  capacity : l.capacity = n
  size : l.size ≤ n

/-- A trimmed log fits its capacity. -/
theorem holds_trim {l : FaultLog} {n : Nat} (h : 0 < n) (hc : l.capacity = n) : l.trim.Holds n :=
  ⟨h, hc, hc ▸ l.size_trim_le⟩

/-- A new log is empty. -/
theorem holds_ofCapacity {n : Nat} (h : 0 < n) : (ofCapacity n).Holds n :=
  ⟨h, Nat.max_eq_right h, Nat.zero_le _⟩

/-- A log that shrinks discards what no longer fits. -/
theorem holds_setCapacity (l : FaultLog) {n : Nat} (h : 0 < n) : (l.setCapacity n).1.Holds n :=
  holds_trim h (Nat.max_eq_right h)

namespace Holds

variable {l : FaultLog} {n : Nat}

/-- A record that does not fit makes the oldest go. -/
theorem record (h : l.Holds n) (r : FaultRecord) : (l.record r).1.Holds n :=
  holds_trim h.positive h.capacity

theorem clear (h : l.Holds n) : l.clear.Holds n := ⟨h.positive, h.capacity, Nat.zero_le _⟩

/-- What was recorded last is the newest record: a log holds at least one. -/
theorem getLast?_record (h : l.Holds n) (r : FaultRecord) :
    (l.record r).1.records.getLast? = some r := by
  have hexcess : (l.append r).excess < (l.append r).records.length := by
    have hpositive := h.positive
    have hcapacity : (l.append r).capacity = n := h.capacity
    have hlength : (l.append r).records.length = l.records.length + 1 := List.length_append
    rw [excess, FaultLog.size, hcapacity, hlength]
    omega
  show ((l.append r).records.drop (l.append r).excess).getLast? = some r
  rw [List.getLast?_drop, if_neg (Nat.not_le.2 hexcess)]
  exact List.getLast?_concat

end Holds

/-- A log within its capacity is one record over it after another was appended, or not at all. -/
theorem excess_append {l : FaultLog} (h : l.size ≤ l.capacity) (r : FaultRecord) :
    (l.append r).excess = (decide (0 < (l.append r).excess)).toNat := by
  have hexcess : (l.append r).excess ≤ 1 := by
    have hlength : (l.append r).size = l.size + 1 := List.length_append
    have hcapacity : (l.append r).capacity = l.capacity := rfl
    rw [excess, hlength, hcapacity]
    omega
  rcases Nat.eq_zero_or_pos (l.append r).excess with hzero | hpos
  · rw [hzero]
    rfl
  · rw [decide_eq_true hpos]
    exact Nat.le_antisymm hexcess hpos

/-! ## History -/

/-- The log is the history without its oldest records, and this many of them. -/
structure Keeps (l : FaultLog) (history : List FaultRecord) (lost : Nat) : Prop where
  records : l.records = history.drop lost
  lost_le : lost ≤ history.length

namespace Keeps

variable {l : FaultLog} {history : List FaultRecord} {lost : Nat}

/-- What is kept and what is lost make up the history. -/
theorem size_add_lost (h : l.Keeps history lost) : l.size + lost = history.length := by
  have hle := h.lost_le
  rw [size, h.records, List.length_drop]
  omega

/-- A record is the newest of the history. -/
theorem append (h : l.Keeps history lost) (r : FaultRecord) :
    (l.append r).Keeps (history ++ [r]) lost := by
  refine ⟨?_, ?_⟩
  · show l.records ++ [r] = (history ++ [r]).drop lost
    rw [h.records, List.drop_append_of_le_length h.lost_le]
  · rw [List.length_append]
    exact Nat.le_add_right_of_le h.lost_le

/-- Trimming loses from the old end. -/
theorem trim (h : l.Keeps history lost) : l.trim.Keeps history (lost + l.excess) := by
  refine ⟨?_, ?_⟩
  · show l.records.drop l.excess = history.drop (lost + l.excess)
    rw [h.records, List.drop_drop]
  · have hsize := h.size_add_lost
    have hexcess : l.excess ≤ l.size := Nat.sub_le ..
    omega

theorem record (h : l.Keeps history lost) (hsize : l.size ≤ l.capacity) (r : FaultRecord) :
    (l.record r).1.Keeps (history ++ [r]) (lost + (l.record r).2.toNat) := by
  have hlost : (l.record r).2.toNat = (l.append r).excess := (excess_append hsize r).symm
  rw [hlost]
  exact (h.append r).trim

/-- What is discarded is the oldest that was kept. -/
theorem setCapacity (h : l.Keeps history lost) (n : Nat) :
    (l.setCapacity n).1.Keeps history (lost + (l.setCapacity n).2) := by
  have hresized : ({ l with capacity := max 1 n } : FaultLog).Keeps history lost :=
    ⟨h.records, h.lost_le⟩
  exact hresized.trim

end Keeps

end Iommu.FaultLog
