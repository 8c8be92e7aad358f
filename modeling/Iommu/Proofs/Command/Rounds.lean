/-
  Rounds of processing empty the queues.

  A round answers page requests, processes commands and returns events, with time passing in between.
  `load` is what it works on: the page requests and the commands that wait.  Answering turns requests into
  as many commands, and processing takes commands away, so a round never adds to the load.

  The crux is that a round which starts without events takes at least one command (`load_round`): one
  is in front by then, and if it is a SYNC, its completion finds room.  Since a round ends without events,
  every round after the first makes progress, and one round more than the load is enough to empty both
  queues, whatever waits in them (`drained_rounds`).
-/
import Iommu.Proofs.Command.Order
import Iommu.Proofs.Controller.Sized
import Iommu.Proofs.Controller.WellFormed

namespace Iommu

/-- A full queue with any room at all has something in it. -/
theorem Queue.ne_nil_of_isFull {α : Type} {q : Queue α} (hroom : 0 < q.capacity)
    (hfull : q.isFull = true) : q.entries ≠ [] := by
  have hsize : q.capacity ≤ q.entries.length := of_decide_eq_true hfull
  intro hnil
  rw [hnil, List.length_nil] at hsize
  omega

/-- What is offered to a queue with a capacity leaves it with an entry, if there is any. -/
theorem Queue.offer_push_ne_nil {α β : Type} (f : α → β) (as : List α) (q : Queue β)
    (hroom : 0 < q.capacity) (hsome : as ≠ [] ∨ q.entries ≠ []) :
    (offer (fun q a => (!q.isFull, q.push (f a))) q as).2.2.entries ≠ [] := by
  rw [entries_offer_push]
  rcases hsome with hsome | hsome
  · cases as with
    | nil => exact absurd rfl hsome
    | cons a as =>
      rw [offer]
      cases hfull : q.isFull with
      | true =>
        exact List.append_ne_nil_of_left_ne_nil (ne_nil_of_isFull hroom hfull) _
      | false => simp
  · exact List.append_ne_nil_of_left_ne_nil hsome _

namespace Controller

/-! ## The load -/

/-- The page requests and the commands that wait. -/
def load (c : Controller) : Nat := c.pageRequests.size + c.commands.size

/-- There is no load exactly when both queues are empty. -/
theorem load_eq_zero {c : Controller} :
    c.load = 0 ↔ c.pageRequests.entries = [] ∧ c.commands.entries = [] := by
  rw [load, Nat.add_eq_zero_iff, Queue.size, Queue.size, List.length_eq_zero_iff,
    List.length_eq_zero_iff]

/-- A request that is answered is a command that waits. -/
theorem load_processPageRequests (c : Controller) : c.processPageRequests.1.load = c.load := by
  have hsplit := congrArg List.length (Queue.take_append_offer
    (fun q r => (!q.isFull, q.push (c.response r))) c.commands c.pageRequests.entries)
  have hsent := congrArg List.length
    (Queue.entries_offer_push c.response c.pageRequests.entries c.commands)
  rw [List.length_append] at hsplit hsent
  rw [List.length_map] at hsent
  show (Queue.offer _ c.commands c.pageRequests.entries).2.1.length +
    (Queue.offer _ c.commands c.pageRequests.entries).2.2.entries.length =
      c.pageRequests.entries.length + c.commands.entries.length
  omega

/-- Every turn takes one command. -/
theorem load_processCommands (c : Controller) :
    c.processCommands.1.load + c.processed.length = c.load := by
  have hremoved := congrArg List.length c.processesInOrder.removes
  rw [List.length_append, List.length_map] at hremoved
  have hrequests : c.processCommands.1.pageRequests = c.pageRequests := by
    rw [processed_processCommands c]
  rw [load, load, hrequests, Queue.size, Queue.size, Queue.size]
  omega

/-- Where the event queue is empty, no SYNC has to wait, so the command in front runs. -/
theorem processed_ne_nil {c : Controller} (hroom : 0 < c.events.capacity)
    (hevents : c.events.entries = []) (hcommands : c.commands.entries ≠ []) :
    c.processed ≠ [] := by
  intro hnil
  obtain ⟨d, hlinked, hends⟩ := c.processesInOrder.runs
  rw [hnil] at hlinked
  generalize c.processCommands.1 = after at hends
  generalize c.processCommands.2.blocked = blocked at hends
  cases hlinked
  cases hends with
  | drained hempty => exact hcommands hempty
  | blocked _ _ hfull => exact Queue.ne_nil_of_isFull hroom hfull hevents

/-! ## Rounds -/

/-- One round: requests, commands, events, each after a pause. -/
def round (pause : Nat × Nat × Nat) : List Op :=
  [.elapse pause.1, .processPageRequests, .elapse pause.2.1, .processCommands, .elapse pause.2.2,
    .processEvents]

/-- As many rounds as there are pauses. -/
def rounds (pauses : List (Nat × Nat × Nat)) : List Op := pauses.flatMap round

/-- Rounds are one round and then the rest. -/
theorem run_rounds_cons (c : Controller) (pause : Nat × Nat × Nat)
    (pauses : List (Nat × Nat × Nat)) :
    (c.run (rounds (pause :: pauses))).1 =
      ((c.run (round pause)).1.run (rounds pauses)).1 := by
  rw [rounds, List.flatMap_cons, run_append]
  rfl

/-- Every round drains the events, so a barrier passes in the next. -/
theorem events_round (c : Controller) (pause : Nat × Nat × Nat) :
    (c.run (round pause)).1.events.entries = [] := rfl

/-- A round adds nothing to the load, and takes from it if it starts without events. -/
theorem load_round {c : Controller} (hw : c.WellFormed) (hs : c.Sized)
    (pause : Nat × Nat × Nat) :
    (c.run (round pause)).1.load ≤ c.load ∧
      (c.events.entries = [] → c.load ≠ 0 → (c.run (round pause)).1.load < c.load) := by
  have hevents : 0 < c.events.capacity := by
    rw [hs.queued.events.capacity]
    exact hw.config.events.1
  have hcommands : 0 < c.commands.capacity := by
    rw [hs.queued.commands.capacity]
    exact hw.config.commands.1
  -- the state in which the commands are processed
  obtain ⟨d, hd⟩ : ∃ d, d = ((c.elapse pause.1).processPageRequests.1).elapse pause.2.1 := ⟨_, rfl⟩
  have hload : d.load = c.load := by
    rw [hd]
    exact load_processPageRequests (c.elapse pause.1)
  have hround : (c.run (round pause)).1.load = d.processCommands.1.load := by
    rw [hd]
    rfl
  have htaken := load_processCommands d
  refine ⟨by omega, fun hnone hsome => ?_⟩
  have hfront : d.commands.entries ≠ [] := by
    rw [hd]
    refine Queue.offer_push_ne_nil (c.elapse pause.1).response c.pageRequests.entries c.commands
      hcommands ?_
    by_contra hboth
    rw [not_or, not_ne_iff, not_ne_iff] at hboth
    exact hsome (load_eq_zero.2 hboth)
  have hturn : d.processed ≠ [] :=
    processed_ne_nil (by rw [hd]; exact hevents) (by rw [hd]; exact hnone) hfront
  have hlength := List.length_pos_iff.2 hturn
  omega

/-- Without events at the start, every round takes from the load until nothing is left. -/
theorem load_rounds {c : Controller} (hw : c.WellFormed) (hs : c.Sized)
    (hnone : c.events.entries = []) (pauses : List (Nat × Nat × Nat)) :
    (c.run (rounds pauses)).1.load ≤ c.load - pauses.length := by
  induction pauses generalizing c with
  | nil => exact Nat.le_refl _
  | cons pause pauses ih =>
    obtain ⟨hle, hlt⟩ := load_round hw hs pause
    have hrest := ih (hw.run (round pause)) (hs.run (round pause)) (events_round c pause)
    rw [run_rounds_cons, List.length_cons]
    by_cases hload : c.load = 0
    · omega
    · have hless := hlt hnone hload
      omega

/-- One round more than the load empties both queues. -/
theorem drained_rounds {c : Controller} (hw : c.WellFormed) (hs : c.Sized)
    {pauses : List (Nat × Nat × Nat)} (hlong : c.load < pauses.length) :
    (c.run (rounds pauses)).1.pageRequests.entries = [] ∧
      (c.run (rounds pauses)).1.commands.entries = [] := by
  rw [← load_eq_zero]
  cases pauses with
  | nil => cases hlong
  | cons pause pauses =>
    have hfirst := (load_round hw hs pause).1
    have hrest := load_rounds (hw.run (round pause)) (hs.run (round pause)) (events_round c pause)
      pauses
    rw [List.length_cons] at hlong
    rw [run_rounds_cons]
    omega

end Controller

end Iommu
