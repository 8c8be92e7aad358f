/-
  Queues under their names.

  What a bounded queue refuses is an error of the library once it is known which queue it was:
  `submit` reports a full queue with its capacity, `resizeTo` a size below the number of entries that
  wait.
-/
import Iommu.Error
import Iommu.Queue

namespace Iommu.Queue

variable {α : Type}

/-- Offers an entry to the queue of a name.  When it does not fit, only the refusal is counted. -/
def submit (name : QueueName) (q : Queue α) (a : α) : Queue α × Except Error Unit :=
  (q.push a, if q.isFull then .error (.queueFull name q.capacity) else .ok ())

/-- The queue of a name at another size. -/
def resizeTo (name : QueueName) (q : Queue α) (size : Nat) : Except Error (Queue α) :=
  match q.resize? size with
  | some q => .ok q
  | none => .error (.misconfigured (.queueOverfull name q.size size))

/-- A submission fails exactly when the queue is full. -/
theorem submit_eq_ok_iff (name : QueueName) (q : Queue α) (a : α) :
    (q.submit name a).2 = .ok () ↔ q.isFull = false := by
  cases h : q.isFull <;> simp [submit, h]

/-- A queue at another size holds what it held. -/
theorem entries_resizeTo {name : QueueName} {q q' : Queue α} {size : Nat}
    (h : q.resizeTo name size = .ok q') : q'.entries = q.entries := by
  by_cases hs : q.size ≤ size
  · simp only [resizeTo, resize?, if_pos hs, Except.ok.injEq] at h
    rw [← h]
  · simp [resizeTo, resize?, hs] at h

end Iommu.Queue
