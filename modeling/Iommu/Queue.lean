/-
  Bounded first-in first-out queues.

  A queue refuses what does not fit and loses nothing it accepted: `push` on a full queue changes only
  the count of refusals (`push_of_isFull`), and on any other it appends (`push_of_not_isFull`).
  `drainWhile` offers entries from the front to a function that carries a state of its own, and
  stops at the first one refused.  Entries and counters are plain data, so the whole history of a
  queue can be read off a list of `Op`s; as data, a receiver is a function of the entries it was
  offered before (`recording`).
-/

namespace Iommu

/-- A bounded queue, oldest entry first. -/
structure Queue (α : Type) where
  entries : List α
  capacity : Nat
  /-- Entries taken in since the counters were last reset, without the wrap-around that a 64-bit word
      would come to after 2^64 of them. -/
  accepted : Nat
  /-- Entries refused since the counters were last reset, likewise. -/
  rejected : Nat
deriving DecidableEq

namespace Queue

variable {α σ : Type}

/-- An empty queue. -/
def ofCapacity (capacity : Nat) : Queue α := ⟨[], capacity, 0, 0⟩

/-- Number of entries waiting. -/
def size (q : Queue α) : Nat := q.entries.length

/-- Whether nothing waits. -/
def isEmpty (q : Queue α) : Bool := q.entries.isEmpty

/-- Whether the next submission would be refused. -/
def isFull (q : Queue α) : Bool := q.capacity ≤ q.size

/-- Offers an entry to the queue. -/
def push (q : Queue α) (a : α) : Queue α :=
  if q.isFull then { q with rejected := q.rejected + 1 }
  else { q with entries := q.entries ++ [a], accepted := q.accepted + 1 }

/-- The oldest entry. -/
def front? (q : Queue α) : Option α := q.entries.head?

/-- The queue without its oldest entry. -/
def popFront (q : Queue α) : Queue α := { q with entries := q.entries.tail }

/-- The queue without entries. -/
def clear (q : Queue α) : Queue α := { q with entries := [] }

/-- The queue with another capacity, unless it holds more than that. -/
def resize? (q : Queue α) (capacity : Nat) : Option (Queue α) :=
  if q.size ≤ capacity then some { q with capacity } else none

/-- Sets the counters to zero; what waits stays. -/
def resetCounters (q : Queue α) : Queue α := { q with accepted := 0, rejected := 0 }

/-- Offers entries of a list in order until one is refused.  The answer is the number taken, what
    is left, and the state of the receiver. -/
def offer (accept : σ → α → Bool × σ) (s : σ) : List α → Nat × List α × σ
  | [] => (0, [], s)
  | a :: rest =>
    match accept s a with
    | (false, s') => (0, a :: rest, s')
    | (true, s') =>
      let (taken, left, s'') := offer accept s' rest
      (taken + 1, left, s'')

/-- Offers entries from the front until one is refused; that one stays. -/
def drainWhile (q : Queue α) (accept : σ → α → Bool × σ) (s : σ) : Nat × Queue α × σ :=
  let (taken, left, s') := offer accept s q.entries
  (taken, { q with entries := left }, s')

/-! ## Laws -/

/-- A full queue counts the refusal and stays as it is. -/
theorem push_of_isFull {q : Queue α} (h : q.isFull = true) (a : α) :
    q.push a = { q with rejected := q.rejected + 1 } := by
  simp [push, h]

/-- A queue with room takes the entry at its end and counts it. -/
theorem push_of_not_isFull {q : Queue α} (h : q.isFull = false) (a : α) :
    q.push a = { q with entries := q.entries ++ [a], accepted := q.accepted + 1 } := by
  simp [push, h]

/-- A queue has room exactly while it is below its capacity. -/
theorem isFull_eq_false {q : Queue α} : q.isFull = false ↔ q.size < q.capacity := by
  simp [isFull]

/-- A push never takes the queue above its capacity. -/
theorem size_push_le {q : Queue α} (h : q.size ≤ q.capacity) (a : α) :
    (q.push a).size ≤ (q.push a).capacity := by
  cases hf : q.isFull with
  | true => simpa [push_of_isFull hf, size] using h
  | false =>
    have hlt := isFull_eq_false.1 hf
    rw [push_of_not_isFull hf]
    simp only [size, List.length_append, List.length_cons, List.length_nil] at hlt ⊢
    omega

/-- Every entry offered is counted once. -/
theorem accepted_add_rejected_push (q : Queue α) (a : α) :
    (q.push a).accepted + (q.push a).rejected = q.accepted + q.rejected + 1 := by
  unfold push
  split <;> simp only <;> omega

/-- What is taken and what is left are the entries, in order. -/
theorem take_append_offer (accept : σ → α → Bool × σ) (s : σ) (as : List α) :
    as.take (offer accept s as).1 ++ (offer accept s as).2.1 = as := by
  induction as generalizing s with
  | nil => rfl
  | cons a rest ih =>
    unfold offer
    rcases accept s a with ⟨taken, s'⟩
    cases taken with
    | false => rfl
    | true => simpa using ih s'

/-! ## Operations as data -/

/-- A change to a queue. -/
inductive Op (α : Type)
  | push (a : α)
  | popFront
  | drain
  /-- The receiver decides by the entries it was offered before, and the one it is offered. -/
  | drainWhile (accept : List α → α → Bool)
  | clear
  | resize (capacity : Nat)
  | resetCounters

/-- What a change answers: whether it was carried out, the entries it removed, and those it offered
    to a receiver. -/
structure Answer (α : Type) where
  done : Bool
  removed : List α
  offered : List α
deriving DecidableEq

/-- The receiver that keeps what it is offered. -/
def recording (accept : List α → α → Bool) (seen : List α) (a : α) : Bool × List α :=
  (accept seen a, seen ++ [a])

/-- A queue after a change. -/
def step (q : Queue α) : Op α → Queue α × Answer α
  | .push a => (q.push a, ⟨!q.isFull, [], []⟩)
  | .popFront => (q.popFront, ⟨!q.isEmpty, q.entries.take 1, []⟩)
  | .drain => (q.clear, ⟨true, q.entries, []⟩)
  | .drainWhile accept =>
    let (taken, q', offered) := q.drainWhile (recording accept) []
    (q', ⟨true, q.entries.take taken, offered⟩)
  | .clear => (q.clear, ⟨true, q.entries, []⟩)
  | .resize capacity =>
    match q.resize? capacity with
    | some q' => (q', ⟨true, [], []⟩)
    | none => (q, ⟨false, [], []⟩)
  | .resetCounters => (q.resetCounters, ⟨true, [], []⟩)

/-- A queue after a list of changes, with their answers. -/
def run (q : Queue α) : List (Op α) → Queue α × List (Answer α)
  | [] => (q, [])
  | op :: ops =>
    let (q', answer) := q.step op
    let (q'', answers) := q'.run ops
    (q'', answer :: answers)

end Queue

end Iommu
