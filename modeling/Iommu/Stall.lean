/-
  Stalled transactions: those that wait for software to answer their page request.

  The table is a list in the order of stalling.  Releasing keeps the rest in order and answers how
  many were released; `release_length` says that nothing else leaves.
-/
import Iommu.Transaction

namespace Iommu

/-- A transaction that waits for its page. -/
structure Stall where
  transaction : Transaction
  /-- Nanoseconds from the creation of the controller to the stall. -/
  timestamp : UInt64
deriving DecidableEq

/-- The stalled transactions, oldest first. -/
structure StallTable where
  stalls : List Stall
deriving DecidableEq

namespace StallTable

/-- No transaction is stalled. -/
def empty : StallTable := ⟨[]⟩

/-- How many transactions are stalled. -/
def size (t : StallTable) : Nat := t.stalls.length

/-- Adds a stalled transaction. -/
def add (t : StallTable) (s : Stall) : StallTable := ⟨t.stalls ++ [s]⟩

/-- Releases every stall that a condition selects. -/
def release (t : StallTable) (selected : Transaction → Bool) : StallTable × Nat :=
  (⟨t.stalls.filter fun s => !selected s.transaction⟩,
    t.stalls.countP fun s => selected s.transaction)

/-- The transactions of a stream and PASID whose page lies in a range. -/
def inRange (stream : StreamId) (pasid : Pasid) (range : PageRange) (t : Transaction) : Bool :=
  t.stream = stream && t.pasid = pasid && range.selects t.address

/-- Releases the stalls of a stream and PASID whose page lies in a range. -/
def resume (t : StallTable) (stream : StreamId) (pasid : Pasid) (range : PageRange) :
    StallTable × Nat :=
  t.release (inRange stream pasid range)

/-- Releases the stalls of a stream. -/
def dropStream (t : StallTable) (stream : StreamId) : StallTable × Nat :=
  t.release fun x => x.stream = stream

/-- Releases the stalls of a stream and PASID. -/
def dropPasid (t : StallTable) (stream : StreamId) (pasid : Pasid) : StallTable × Nat :=
  t.release fun x => x.stream = stream && x.pasid = pasid

/-- The stalls kept and those released are all of them. -/
theorem release_length (t : StallTable) (selected : Transaction → Bool) :
    (t.release selected).1.size + (t.release selected).2 = t.size := by
  simp only [release, size]
  rw [List.countP_eq_length_filter]
  induction t.stalls with
  | nil => rfl
  | cons s rest ih =>
    cases h : selected s.transaction <;> simp [h] <;> omega

end StallTable

end Iommu
