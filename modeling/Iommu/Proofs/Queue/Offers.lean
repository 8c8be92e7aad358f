/-
  Entries offered to a bounded queue, one after the other.

  `pushAll` offers the entries of a list in order.  Each of them is taken if the queue is below its
  capacity at that moment, and refused if not, so a list that is offered splits into the entries `taken`
  and those `refused`.  The queue gains the entries taken, in order, at its end (`entries_pushAll`), and
  counts the two kinds (`accepted_pushAll`, `rejected_pushAll`).
-/
import Iommu.Proofs.Queue.Bounded

namespace Iommu.Queue

variable {α : Type}

/-- The queue after entries were offered to it, one after the other. -/
def pushAll (q : Queue α) (as : List α) : Queue α := as.foldl push q

/-- The entries that find the queue below its capacity when they are offered. -/
def taken (q : Queue α) : List α → List α
  | [] => []
  | a :: as => (if q.size < q.capacity then [a] else []) ++ (q.push a).taken as

/-- The entries that find the queue at its capacity when they are offered. -/
def refused (q : Queue α) : List α → List α
  | [] => []
  | a :: as => (if q.size < q.capacity then [] else [a]) ++ (q.push a).refused as

/-! ## In two parts -/

/-- What is refused of two lists is refused of the first, and then of the second. -/
theorem refused_append (q : Queue α) (as bs : List α) :
    q.refused (as ++ bs) = q.refused as ++ (q.pushAll as).refused bs := by
  induction as generalizing q with
  | nil => rfl
  | cons a as ih =>
    rw [List.cons_append, refused, refused, ih, List.append_assoc]
    rfl

/-- What is refused was offered. -/
theorem mem_of_mem_refused {q : Queue α} {as : List α} {a : α} (h : a ∈ q.refused as) : a ∈ as := by
  induction as generalizing q with
  | nil => exact h
  | cons b as ih =>
    rw [refused, List.mem_append] at h
    rcases h with h | h
    · split at h
      · cases h
      · exact List.mem_singleton.1 h ▸ List.mem_cons_self
    · exact List.mem_cons_of_mem b (ih h)

/-! ## What the queue gains and counts -/

/-- The queue gains the entries taken, in order. -/
theorem entries_pushAll (q : Queue α) (as : List α) :
    (q.pushAll as).entries = q.entries ++ q.taken as := by
  induction as generalizing q with
  | nil => rw [taken, List.append_nil]; rfl
  | cons a as ih =>
    show ((q.push a).pushAll as).entries = _
    rw [ih, entries_push, taken, List.append_assoc]
    congr 2
    cases h : q.isFull with
    | true => rw [if_pos rfl, if_neg (by simpa [isFull] using h)]
    | false => rw [if_neg Bool.false_ne_true, if_pos (isFull_eq_false.1 h)]

/-- What is taken is counted, -/
theorem accepted_pushAll (q : Queue α) (as : List α) :
    (q.pushAll as).accepted = q.accepted + (q.taken as).length := by
  induction as generalizing q with
  | nil => rfl
  | cons a as ih =>
    show ((q.push a).pushAll as).accepted = _
    rw [ih, taken, List.length_append]
    cases h : q.isFull with
    | true =>
      rw [push_of_isFull h, if_neg (by simpa [isFull] using h), List.length_nil, Nat.zero_add]
    | false =>
      rw [push_of_not_isFull h, if_pos (isFull_eq_false.1 h), List.length_singleton]
      exact Nat.add_assoc ..

/-- and so is what is refused. -/
theorem rejected_pushAll (q : Queue α) (as : List α) :
    (q.pushAll as).rejected = q.rejected + (q.refused as).length := by
  induction as generalizing q with
  | nil => rfl
  | cons a as ih =>
    show ((q.push a).pushAll as).rejected = _
    rw [ih, refused, List.length_append]
    cases h : q.isFull with
    | true =>
      rw [push_of_isFull h, if_neg (by simpa [isFull] using h), List.length_singleton]
      exact Nat.add_assoc ..
    | false =>
      rw [push_of_not_isFull h, if_pos (isFull_eq_false.1 h), List.length_nil, Nat.zero_add]

end Iommu.Queue
