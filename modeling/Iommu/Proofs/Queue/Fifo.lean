/-
  A bounded queue over its whole history.

  `removed_append_entries` is the crux: whatever a change takes away stood in front, and whatever it
  takes in is put behind, so the entries removed in a run, followed by those that still wait, are the
  entries that its pushes entered, in their order (`removed_append_entries_run`).  The other two facts
  about a run go the same way from one change to all of them: the entries stay within a capacity that
  itself changes (`size_le_capacity_run`), and the two counters share out the pushes since they were
  last reset (`accepted_add_rejected_run`).

  A receiver that drains the queue takes the longest part in front that it accepts, and sees the entry
  behind it, if there is one, and no more (`takes_taken`, `isPrefix_taken`, `offered_eq`).  Nothing is
  lost by letting it decide by what it was offered: a receiver with a state of its own is one of these
  (`drainWhile_eq_step`).
-/
import Iommu.Proofs.Queue.Bounded

namespace Iommu.Queue

variable {α σ : Type}

/-! ## Receivers -/

/-- Whether a receiver takes every entry of a list, offered in order after others. -/
def takes (accept : List α → α → Bool) (seen : List α) : List α → Bool
  | [] => true
  | a :: as => accept seen a && takes accept (seen ++ [a]) as

section Recording

variable (accept : List α → α → Bool) (seen as : List α)

/-- What was taken is accepted, entry by entry. -/
theorem takes_taken : takes accept seen (as.take (offer (recording accept) seen as).1) = true := by
  induction as generalizing seen with
  | nil => rfl
  | cons a rest ih =>
    rw [offer, recording]
    cases ha : accept seen a with
    | false => rfl
    | true =>
      rw [List.take_succ_cons, takes, ha, Bool.true_and]
      exact ih (seen ++ [a])

/-- No longer part in front is accepted than the one taken. -/
theorem isPrefix_taken {front : List α} (hfront : front <+: as)
    (htakes : takes accept seen front = true) :
    front <+: as.take (offer (recording accept) seen as).1 := by
  induction as generalizing seen front with
  | nil => exact hfront
  | cons a rest ih =>
    cases front with
    | nil => exact List.nil_prefix
    | cons b front =>
      obtain ⟨rfl, hrest⟩ := List.cons_prefix_cons.1 hfront
      obtain ⟨hb, htakes⟩ := Bool.and_eq_true_iff.1 htakes
      rw [offer, recording, hb, List.take_succ_cons]
      exact List.cons_prefix_cons.2 ⟨rfl, ih (seen ++ [b]) hrest htakes⟩

/-- The receiver sees what it takes and the entry that it refuses. -/
theorem offered_eq :
    (offer (recording accept) seen as).2.2 =
      seen ++ as.take (offer (recording accept) seen as).1 ++
        (offer (recording accept) seen as).2.1.take 1 := by
  induction as generalizing seen with
  | nil => simp [offer]
  | cons a rest ih =>
    rw [offer, recording]
    cases accept seen a with
    | false => simp
    | true =>
      have hrest := ih (seen ++ [a])
      rw [List.append_assoc seen [a]] at hrest
      exact hrest

end Recording

/-- No more is taken than there is. -/
theorem taken_le_length (accept : σ → α → Bool × σ) (s : σ) (as : List α) :
    (offer accept s as).1 ≤ as.length := by
  induction as generalizing s with
  | nil => exact Nat.le_refl 0
  | cons a rest ih =>
    rw [offer]
    rcases accept s a with ⟨taken, s'⟩
    cases taken with
    | false => exact Nat.zero_le _
    | true => exact Nat.succ_le_succ (ih s')

/-! ### A state of its own -/

/-- The state of a receiver after entries were offered to it. -/
def stateAfter (accept : σ → α → Bool × σ) (s : σ) (seen : List α) : σ :=
  seen.foldl (fun s a => (accept s a).2) s

/-- A receiver with a state, as one that decides by what it was offered. -/
def deciding (accept : σ → α → Bool × σ) (s : σ) (seen : List α) (a : α) : Bool :=
  (accept (stateAfter accept s seen) a).1

/-- An acceptance with a state decides by what it has seen. -/
theorem offer_eq_recording (accept : σ → α → Bool × σ) (s : σ) (seen as : List α) :
    offer accept (stateAfter accept s seen) as =
      ((offer (recording (deciding accept s)) seen as).1,
        (offer (recording (deciding accept s)) seen as).2.1,
        stateAfter accept s (offer (recording (deciding accept s)) seen as).2.2) := by
  induction as generalizing seen with
  | nil => rfl
  | cons a rest ih =>
    have hstep : stateAfter accept s (seen ++ [a]) = (accept (stateAfter accept s seen) a).2 := by
      rw [stateAfter, List.foldl_append]
      rfl
    have hrest := ih (seen ++ [a])
    rw [hstep] at hrest
    rw [offer, offer, recording, deciding]
    rcases haccept : accept (stateAfter accept s seen) a with ⟨taken, s'⟩
    rw [haccept] at hstep hrest
    cases taken with
    | false => simp only [hstep]
    | true => simp only [hrest]

/-! ## Histories -/

/-- The entry that a change took in. -/
def intake : Op α → Answer α → List α
  | .push a, answer => if answer.done then [a] else []
  | _, _ => []

/-- The entries that a list of changes took in, in order. -/
def entered (ops : List (Op α)) (answers : List (Answer α)) : List α :=
  (ops.zip answers).flatMap fun p => intake p.1 p.2

/-- Pushes attempted since the counters were last reset, one change later. -/
def Op.attempts (n : Nat) : Op α → Nat
  | .push _ => n + 1
  | .resetCounters => 0
  | _ => n

/-- Pushes attempted since the counters were last reset. -/
def attempts (ops : List (Op α)) : Nat := ops.foldl Op.attempts 0

/-! ## One change -/

/-- A drain takes from the front. -/
theorem step_drainWhile (q : Queue α) (accept : List α → α → Bool) :
    q.step (.drainWhile accept) =
      ({ q with entries := (offer (recording accept) [] q.entries).2.1 },
        ⟨true, q.entries.take (offer (recording accept) [] q.entries).1,
          (offer (recording accept) [] q.entries).2.2⟩) := rfl

/-- Draining to a receiver with a state is the change whose receiver decides as it does; the state is
    then that after the entries offered. -/
theorem drainWhile_eq_step (q : Queue α) (accept : σ → α → Bool × σ) (s : σ) :
    q.drainWhile accept s =
      ((q.step (.drainWhile (deciding accept s))).2.removed.length,
        (q.step (.drainWhile (deciding accept s))).1,
        stateAfter accept s (q.step (.drainWhile (deciding accept s))).2.offered) := by
  have hoffer := offer_eq_recording accept s [] q.entries
  rw [show stateAfter accept s [] = s from rfl] at hoffer
  rw [drainWhile, hoffer, step_drainWhile]
  simp only [List.length_take, Nat.min_eq_left (taken_le_length _ _ _)]

/-- A queue is resized only to what holds its entries. -/
theorem step_resize (q : Queue α) (n : Nat) :
    q.step (.resize n) =
      if q.size ≤ n then ({ q with capacity := n }, ⟨true, [], []⟩) else (q, ⟨false, [], []⟩) := by
  by_cases h : q.size ≤ n
  · simp only [step, resize?, if_pos h]
  · simp only [step, resize?, if_neg h]

/-- A change takes entries away in front and takes them in behind. -/
theorem removed_append_entries (q : Queue α) (op : Op α) :
    (q.step op).2.removed ++ (q.step op).1.entries = q.entries ++ intake op (q.step op).2 := by
  cases op with
  | push a =>
    have hentries := entries_push q a
    cases hf : q.isFull <;> simp [step, intake, hf, hentries]
  | popFront =>
    show q.entries.take 1 ++ q.entries.tail = q.entries ++ []
    rw [List.append_nil, ← List.drop_one, List.take_append_drop]
  | drainWhile accept =>
    rw [step_drainWhile]
    exact (take_append_offer _ _ _).trans (List.append_nil _).symm
  | drain => rfl
  | clear => rfl
  | resize n =>
    rw [step_resize]
    split <;> exact (List.append_nil _).symm
  | resetCounters => exact (List.append_nil _).symm

/-- No operation overfills a queue. -/
theorem size_le_capacity_step {q : Queue α} (h : q.size ≤ q.capacity) (op : Op α) :
    (q.step op).1.size ≤ (q.step op).1.capacity := by
  have holds : q.Holds q.capacity := ⟨rfl, h⟩
  cases op with
  | push a => exact size_push_le h a
  | popFront => exact holds.popFront.size
  | drain => exact Nat.zero_le _
  | drainWhile accept => exact (holds.left (recording accept) []).size
  | clear => exact Nat.zero_le _
  | resize n =>
    rw [step_resize]
    split
    · assumption
    · exact h
  | resetCounters => exact h

/-- An operation counts as many entries as it offers. -/
theorem accepted_add_rejected_step (q : Queue α) (op : Op α) :
    (q.step op).1.accepted + (q.step op).1.rejected = op.attempts (q.accepted + q.rejected) := by
  cases op with
  | push a => exact accepted_add_rejected_push q a
  | resize n =>
    rw [step_resize]
    split <;> rfl
  | _ => rfl

/-! ## A whole history -/

/-- Along a run, what was taken out with what is left is what was there and what was let in, in
    order. -/
theorem removed_append_entries_run (q : Queue α) (ops : List (Op α)) :
    (q.run ops).2.flatMap Answer.removed ++ (q.run ops).1.entries =
      q.entries ++ entered ops (q.run ops).2 := by
  induction ops generalizing q with
  | nil => exact (List.append_nil _).symm
  | cons op ops ih =>
    calc (q.run (op :: ops)).2.flatMap Answer.removed ++ (q.run (op :: ops)).1.entries
      _ = (q.step op).2.removed ++ (((q.step op).1.run ops).2.flatMap Answer.removed ++
            ((q.step op).1.run ops).1.entries) := List.append_assoc ..
      _ = (q.step op).2.removed ++ ((q.step op).1.entries ++
            entered ops ((q.step op).1.run ops).2) := by rw [ih]
      _ = q.entries ++ intake op (q.step op).2 ++ entered ops ((q.step op).1.run ops).2 := by
          rw [← List.append_assoc, removed_append_entries]
      _ = q.entries ++ entered (op :: ops) (q.run (op :: ops)).2 := List.append_assoc ..

/-- No run overfills a queue. -/
theorem size_le_capacity_run {q : Queue α} (h : q.size ≤ q.capacity) (ops : List (Op α)) :
    (q.run ops).1.size ≤ (q.run ops).1.capacity := by
  induction ops generalizing q with
  | nil => exact h
  | cons op ops ih => exact ih (size_le_capacity_step h op)

theorem accepted_add_rejected_run (q : Queue α) (ops : List (Op α)) :
    (q.run ops).1.accepted + (q.run ops).1.rejected =
      ops.foldl Op.attempts (q.accepted + q.rejected) := by
  induction ops generalizing q with
  | nil => rfl
  | cons op ops ih =>
    rw [List.foldl_cons, ← accepted_add_rejected_step]
    exact ih (q.step op).1

/-! ## The laws of a queue -/

/-- What a receiver that drains the queue is offered and takes. -/
structure Drains (q q' : Queue α) (accept : List α → α → Bool) (answer : Answer α) : Prop where
  /-- Only the entries change, and those removed stood in front. -/
  rest : ∃ left, q.entries = answer.removed ++ left ∧ q' = { q with entries := left } ∧
    answer.offered = answer.removed ++ left.take 1
  accepted : takes accept [] answer.removed = true
  longest : ∀ front, front <+: q.entries → takes accept [] front = true →
    front <+: answer.removed

/-- What pushing, draining and resizing do to a queue that keeps to its capacity. -/
structure Obeys (q : Queue α) : Prop where
  refuses_iff : ∀ a, (q.step (.push a)).2.done = false ↔ q.size = q.capacity
  refuses : ∀ a, q.size = q.capacity →
    (q.step (.push a)).1 = { q with rejected := q.rejected + 1 }
  takesIn : ∀ a, q.size < q.capacity →
    (q.step (.push a)).1 = { q with entries := q.entries ++ [a], accepted := q.accepted + 1 }
  drains : ∀ accept, q.Drains (q.step (.drainWhile accept)).1 accept
    (q.step (.drainWhile accept)).2
  /-- Every receiver decides by what it is offered, one with a state of its own too. -/
  receives : ∀ (σ : Type) (accept : σ → α → Bool × σ) (s : σ), q.drainWhile accept s =
    ((q.step (.drainWhile (deciding accept s))).2.removed.length,
      (q.step (.drainWhile (deciding accept s))).1,
      stateAfter accept s (q.step (.drainWhile (deciding accept s))).2.offered)
  resize_iff : ∀ n, (q.step (.resize n)).2.done = false ↔ n < q.size
  resizeFails : ∀ n, n < q.size → (q.step (.resize n)).1 = q
  resizes : ∀ n, q.size ≤ n → (q.step (.resize n)).1 = { q with capacity := n }

/-- A drain takes the longest accepted part in front. -/
theorem drains_step (q : Queue α) (accept : List α → α → Bool) :
    q.Drains (q.step (.drainWhile accept)).1 accept (q.step (.drainWhile accept)).2 := by
  rw [step_drainWhile]
  exact
    { rest := ⟨_, (take_append_offer _ _ _).symm, rfl, offered_eq accept [] q.entries⟩
      accepted := takes_taken accept [] q.entries
      longest := fun _ hfront htakes => isPrefix_taken accept [] q.entries hfront htakes }

/-- A queue that is not overfull obeys. -/
theorem obeys_of_size_le {q : Queue α} (h : q.size ≤ q.capacity) : q.Obeys where
  refuses_iff a := by
    show (!q.isFull) = false ↔ _
    rw [Bool.not_eq_false', isFull, decide_eq_true_iff]
    omega
  refuses a hfull := push_of_isFull (decide_eq_true (Nat.le_of_eq hfull.symm)) a
  takesIn a hroom := push_of_not_isFull (isFull_eq_false.2 hroom) a
  drains := q.drains_step
  receives _ accept s := q.drainWhile_eq_step accept s
  resize_iff n := by
    rw [step_resize]
    split <;> simp <;> omega
  resizeFails n hn := by rw [step_resize, if_neg (Nat.not_le.2 hn)]
  resizes n hn := by rw [step_resize, if_pos hn]

/-- After any changes to a new queue: it holds no more than its capacity, the entries removed so far
    followed by those that wait are the entries taken in, the counters share out the pushes since
    they were last reset, and the next change obeys the laws of a queue. -/
theorem first_in_first_out (n : Nat) (ops : List (Op α)) :
    let q := ((ofCapacity n : Queue α).run ops).1
    let answers := ((ofCapacity n : Queue α).run ops).2
    q.size ≤ q.capacity ∧
      answers.flatMap Answer.removed ++ q.entries = entered ops answers ∧
      q.accepted + q.rejected = attempts ops ∧ q.Obeys := by
  have hempty : (ofCapacity n : Queue α).size ≤ (ofCapacity n : Queue α).capacity := Nat.zero_le n
  have hsize := size_le_capacity_run hempty ops
  exact ⟨hsize, removed_append_entries_run _ ops, accepted_add_rejected_run _ ops,
    obeys_of_size_le hsize⟩

end Iommu.Queue
