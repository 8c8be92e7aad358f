/-
  What a bounded queue holds after each of its operations.

  `Holds q n` says that the queue has capacity `n` and no more than `n` entries.  A queue is created so,
  a push keeps it because a full queue refuses, and the other operations only take entries away; a queue
  that takes another size holds what fits there (`holds_resizeTo`).

  Entries offered to a queue until it is full: it takes as many as it has room for, the first of them, in
  order, behind what it held, and counts one refusal if it does not take them all (`offer_push`).
-/
import Iommu.Queue.Named

namespace Iommu.Queue

variable {α β σ : Type}

/-! ## Entries -/

/-- An entry is added at the end, if there is room. -/
theorem entries_push (q : Queue α) (a : α) :
    (q.push a).entries = q.entries ++ if q.isFull then [] else [a] := by
  cases h : q.isFull with
  | true => simp [push_of_isFull h]
  | false => simp [push_of_not_isFull h]

/-- How many entries the queue has room for. -/
def room (q : Queue α) : Nat := q.capacity - q.size

/-- A queue is full when there is no room. -/
theorem isFull_iff_room {q : Queue α} : q.isFull = true ↔ q.room = 0 := by
  rw [isFull, decide_eq_true_iff, room]
  omega

/-- Entries offered to a queue until it is full: it takes the first of them, in order, as many as it
    has room for, and refuses one more if there is one. -/
theorem offer_push (f : α → β) (as : List α) (q : Queue β) :
    offer (fun q a => (!q.isFull, q.push (f a))) q as =
      (min as.length q.room, as.drop (min as.length q.room),
        { q with
          entries := q.entries ++ (as.take (min as.length q.room)).map f
          accepted := q.accepted + min as.length q.room
          rejected := q.rejected + if min as.length q.room < as.length then 1 else 0 }) := by
  induction as generalizing q with
  | nil => simp [offer]
  | cons a as ih =>
    cases hf : q.isFull with
    | true =>
      have hmin : min (a :: as).length q.room = 0 := by rw [isFull_iff_room.1 hf, Nat.min_zero]
      rw [hmin, offer, hf, push_of_isFull hf]
      simp
    | false =>
      have hlt := isFull_eq_false.1 hf
      have hroom : (q.push (f a)).room + 1 = q.room := by
        rw [push_of_not_isFull hf, room, room, size, size, List.length_append, List.length_singleton]
        unfold size at hlt
        dsimp only
        omega
      have hmin : min (a :: as).length q.room = min as.length (q.push (f a)).room + 1 := by
        rw [← hroom, List.length_cons, Nat.add_min_add_right]
      rw [hmin, offer, hf]
      simp only [Bool.not_false, ih]
      generalize min as.length (q.push (f a)).room = k
      rw [push_of_not_isFull hf]
      simp [Nat.add_assoc, Nat.add_comm 1]

/-- Entries offered to a queue until it is full: it takes the first of them, in order. -/
theorem entries_offer_push (f : α → β) (as : List α) (q : Queue β) :
    (offer (fun q a => (!q.isFull, q.push (f a))) q as).2.2.entries =
      q.entries ++ (as.take (offer (fun q a => (!q.isFull, q.push (f a))) q as).1).map f := by
  rw [offer_push]

/-! ## Room -/

/-- The queue has a capacity and no more entries than that. -/
structure Holds (q : Queue α) (n : Nat) : Prop where
  capacity : q.capacity = n
  size : q.size ≤ n

theorem holds_ofCapacity (n : Nat) : (ofCapacity n : Queue α).Holds n := ⟨rfl, Nat.zero_le n⟩

/-- A queue takes a size that holds what is in it, and keeps everything. -/
theorem resizeTo_eq_ok {name : QueueName} {q q' : Queue α} {n : Nat}
    (h : q.resizeTo name n = .ok q') : q.size ≤ n ∧ q' = { q with capacity := n } := by
  by_cases hs : q.size ≤ n
  · simp only [resizeTo, resize?, if_pos hs, Except.ok.injEq] at h
    exact ⟨hs, h.symm⟩
  · simp [resizeTo, resize?, hs] at h

/-- A queue that takes another size holds what fits there. -/
theorem holds_resizeTo {name : QueueName} {q q' : Queue α} {n : Nat}
    (h : q.resizeTo name n = .ok q') : q'.Holds n := by
  obtain ⟨hs, rfl⟩ := resizeTo_eq_ok h
  exact ⟨rfl, hs⟩

namespace Holds

variable {q : Queue α} {n : Nat}

/-- An entry is taken only while there is room. -/
theorem push (h : q.Holds n) (a : α) : (q.push a).Holds n := by
  have hcapacity : (q.push a).capacity = n := by
    unfold Queue.push
    split <;> exact h.capacity
  refine ⟨hcapacity, ?_⟩
  rw [← hcapacity]
  exact size_push_le (h.capacity.symm ▸ h.size) a

/-- Taking entries away. -/
theorem shrink (h : q.Holds n) {entries : List α} (hle : entries.length ≤ q.entries.length) :
    ({ q with entries } : Queue α).Holds n :=
  ⟨h.capacity, Nat.le_trans hle h.size⟩

/-- An entry that leaves makes room. -/
theorem popFront (h : q.Holds n) : q.popFront.Holds n :=
  h.shrink (by rw [List.length_tail]; omega)

theorem clear (h : q.Holds n) : q.clear.Holds n := h.shrink (Nat.zero_le _)

theorem resetCounters (h : q.Holds n) : q.resetCounters.Holds n := ⟨h.capacity, h.size⟩

/-- What is left when a drain stops is a part of what there was. -/
theorem left (h : q.Holds n) (accept : σ → α → Bool × σ) (s : σ) :
    (q.drainWhile accept s).2.1.Holds n := by
  refine h.shrink ?_
  have hsplit := congrArg List.length (take_append_offer accept s q.entries)
  rw [List.length_append] at hsplit
  show (offer accept s q.entries).2.1.length ≤ _
  omega

/-- Entries are offered one by one, and refused once there is no room. -/
theorem offered {q : Queue β} (h : q.Holds n) (f : α → β) (as : List α) :
    (offer (fun q a => (!q.isFull, q.push (f a))) q as).2.2.Holds n := by
  induction as generalizing q with
  | nil => exact h
  | cons a as ih =>
    rw [offer]
    cases q.isFull with
    | true => exact h.push (f a)
    | false => exact ih (h.push (f a))

end Holds

end Iommu.Queue
