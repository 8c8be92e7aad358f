/-
  No event is lost, duplicated or dropped without being counted.

  What operations offer to the event queue is taken or refused, each event by the room there is when it is
  offered.  The events taken leave by being returned or discarded, in the order in which they came, or
  are still queued; every refusal is counted by the queue, and all but the refused completions of
  SYNCs are counted as dropped (`Outbox.Conserves`).

  One step keeps these books, whatever it does to the queue (`conserves_step`): it offers events, or
  empties the queue, or gives it another size.  Over a run that resets nothing they are the books of
  all that was offered (`conserves_run`), and a completion is refused once for each call that a SYNC
  blocks, which closes the balance of the two overflow policies.
-/
import Iommu.Proofs.Event.Offered

namespace Iommu

/-! ## The books -/

/-- The books of an outbox: which events were taken, which of these left it, and which were
    refused. -/
structure Outbox.Conserves (b : Outbox) (taken released refused : List Event) : Prop where
  entries : taken = released ++ b.queue.entries
  accepted : b.queue.accepted = taken.length
  rejected : b.queue.rejected = refused.length
  dropped : b.dropped = refused.countP fun e => !e.completes

namespace Outbox.Conserves

variable {b : Outbox} {taken released refused : List Event}

/-- Offering events takes and refuses each of them. -/
theorem offerAll (h : b.Conserves taken released refused) (es : List Event) :
    (b.offerAll es).Conserves (taken ++ b.queue.taken es) released
      (refused ++ b.queue.refused es) := by
  refine ⟨?_, ?_, ?_, ?_⟩
  · rw [queue_offerAll, Queue.entries_pushAll, ← List.append_assoc, ← h.entries]
  · rw [queue_offerAll, Queue.accepted_pushAll, h.accepted, List.length_append]
  · rw [queue_offerAll, Queue.rejected_pushAll, h.rejected, List.length_append]
  · rw [dropped_offerAll, h.dropped, List.countP_append]

/-- The queue is emptied. -/
theorem clear (h : b.Conserves taken released refused) :
    Outbox.Conserves ⟨b.queue.clear, b.dropped⟩ taken (released ++ b.queue.entries) refused := by
  refine ⟨?_, h.accepted, h.rejected, h.dropped⟩
  rw [h.entries]
  exact (List.append_nil _).symm

/-- The queue takes another size. -/
theorem resize (h : b.Conserves taken released refused) (capacity : Nat) :
    Outbox.Conserves ⟨{ b.queue with capacity }, b.dropped⟩ taken released refused :=
  ⟨h.entries, h.accepted, h.rejected, h.dropped⟩

end Outbox.Conserves

namespace Controller

/-! ## One operation -/

/-- The events that an operation offers and that find room. -/
def taken (c : Controller) (op : Op) : List Event := c.events.taken (c.offered op)

/-- The events that an operation offers and that find the queue full. -/
def overflowed (c : Controller) (op : Op) : List Event := c.events.refused (c.offered op)

/-- The events that an operation takes out of the queue, to return or to discard them. -/
def released (c : Controller) : Op → List Event
  | .processEvents => c.processEvents.2
  | .clearEvents => c.events.entries
  | _ => []

/-- How an operation offers its events. -/
structure OffersInOrder (c : Controller) (op : Op) : Prop where
  /-- The queue is offered the events of the operation, in order, and nothing else. -/
  queue : op.reshapesEvents = false → (c.step op).1.events = c.events.pushAll (c.offered op)
  /-- Within a call that processes commands, each turn offers the events of its own. -/
  turns : op = .processCommands → ∀ t ∈ c.processed,
    t.after.events = t.before.events.pushAll t.offers
  /-- The turns that fail are the commands reported as failed. -/
  report : op = .processCommands →
    c.processCommands.2.failed = c.processed.countP Turn.fails ∧
      c.processCommands.2.syncs = c.processed.countP fun t => t.command.isSync

/-- What an operation offers is given by what it does, in the order in which it does it. -/
theorem offersInOrder (c : Controller) (op : Op) : c.OffersInOrder op := by
  refine ⟨fun h => ?_, fun _ t ht => ?_, fun _ => ?_⟩
  · have hqueue := congrArg Outbox.queue (outbox_step c h)
    rwa [Outbox.queue_offerAll] at hqueue
  · obtain ⟨d, hlinked, -⟩ := c.processesInOrder.runs
    obtain ⟨report, report', hrun⟩ := hlinked.ran t ht
    exact events_runFront hrun
  · have hreport := report_fails c.commands.entries c .none
    exact ⟨hreport.1.trans (Nat.zero_add _), hreport.2.trans (Nat.zero_add _)⟩

/-- A new configuration gives the queue its size, and nothing if it is refused. -/
theorem outbox_updateConfiguration (c : Controller) (new : Configuration) (found : StreamId) :
    ∃ capacity, (c.step (.updateConfiguration new found)).1.outbox =
      ⟨{ c.events with capacity }, c.counters.eventsDropped⟩ := by
  refine settle_preserves (P := fun d => ∃ capacity, d.outbox =
    ⟨{ c.events with capacity }, c.counters.eventsDropped⟩) ⟨_, rfl⟩ fun c' hc => ?_
  obtain ⟨-, events, commands, pageRequests, hevents, -, -, rfl⟩ := updateConfiguration_eq_ok hc
  obtain ⟨-, rfl⟩ := Queue.resizeTo_eq_ok hevents
  exact ⟨new.queues.events.toNat, rfl⟩

/-- Every operation but the two that reset keeps the books. -/
theorem conserves_step {c : Controller} {tk rl rf : List Event}
    (h : c.outbox.Conserves tk rl rf) {op : Op} (hstat : op ≠ .resetStatistics)
    (hreset : op ≠ .reset) : (c.step op).1.outbox.Conserves (tk ++ c.taken op) (rl ++ c.released op)
      (rf ++ c.overflowed op) := by
  cases hshape : op.reshapesEvents with
  | false =>
    have hnone : c.released op = [] := by
      cases op with
      | processEvents => cases hshape
      | clearEvents => cases hshape
      | _ => rfl
    rw [outbox_step c hshape, hnone, List.append_nil]
    exact h.offerAll (c.offered op)
  | true =>
    -- nothing is offered while the queue is emptied or resized
    have hnone : c.taken op = [] ∧ c.overflowed op = [] := by
      cases op with
      | translate t => cases hshape
      | processCommands => cases hshape
      | _ => exact ⟨rfl, rfl⟩
    rw [hnone.1, hnone.2, List.append_nil, List.append_nil]
    cases op with
    | processEvents => exact h.clear
    | clearEvents => exact h.clear
    | updateConfiguration new found =>
      obtain ⟨capacity, houtbox⟩ := outbox_updateConfiguration c new found
      have hkept : c.released (.updateConfiguration new found) = [] := rfl
      rw [houtbox, hkept, List.append_nil]
      exact h.resize capacity
    | resetStatistics => exact absurd rfl hstat
    | reset => exact absurd rfl hreset
    | _ => cases hshape

/-! ## Runs -/

/-- The books of a run that resets nothing. -/
theorem conserves_run {c : Controller} {tk rl rf : List Event} (h : c.outbox.Conserves tk rl rf)
    {ops : List Op} (hstat : .resetStatistics ∉ ops) (hreset : .reset ∉ ops) :
    (c.run ops).1.outbox.Conserves (tk ++ gather taken c ops) (rl ++ gather released c ops)
      (rf ++ gather overflowed c ops) := by
  induction ops generalizing c tk rl rf with
  | nil =>
    rw [gather, gather, gather, List.append_nil, List.append_nil, List.append_nil]
    exact h
  | cons op ops ih =>
    rw [List.mem_cons, not_or] at hstat hreset
    have hstep := conserves_step h (Ne.symm hstat.1) (Ne.symm hreset.1)
    rw [run_cons, gather, gather, gather, ← List.append_assoc, ← List.append_assoc,
      ← List.append_assoc]
    exact ih hstep hstat.2 hreset.2

/-- Over a run a completion is refused once for each call that stops at a SYNC. -/
theorem refused_completions_run (c : Controller) (ops : List Op) :
    (gather overflowed c ops).countP Event.completes = tally blocks c ops := by
  induction ops generalizing c with
  | nil => rfl
  | cons op ops ih => rw [gather, tally, List.countP_append, overflowed, refused_completions, ih]

/-- The books of a new controller, and of one just reset, are empty. -/
theorem conserves_fresh {config : Configuration} {c : Controller} (h : create config = .ok c)
    {ops : List Op} (hops : ops = [] ∨ ops.getLast? = some .reset) :
    (c.run ops).1.outbox.Conserves [] [] [] := by
  obtain ⟨-, rfl⟩ := create_eq_ok h
  rcases hops with rfl | hlast
  · exact ⟨rfl, rfl, rfl, rfl⟩
  · -- whatever came before, a reset leaves the empty books
    rw [← List.dropLast_append_getLast? _ hlast, run_append]
    exact ⟨rfl, rfl, rfl, rfl⟩

/-- What became of the events that a run offered. -/
structure ConservesEvents (c : Controller) (ops : List Op) : Prop where
  offers : ∀ n op, ops[n]? = some op → (c.run (ops.take n)).1.OffersInOrder op
  /-- The events taken are those returned and discarded and those queued, in order. -/
  entries : gather taken c ops = gather released c ops ++ (c.run ops).1.events.entries
  accepted : (c.run ops).1.events.accepted = (gather taken c ops).length
  dropped : (c.run ops).1.counters.eventsDropped =
    (gather overflowed c ops).countP fun e => !e.completes
  rejected : (c.run ops).1.events.rejected =
    (c.run ops).1.counters.eventsDropped + tally blocks c ops

/-- Since construction or the last reset, if statistics were not reset, the events offered are those that
    the failing calls and the commands account for; each was taken or counted as refused, and each
    one taken was returned, was discarded or is queued. -/
theorem events_conserved {config : Configuration} {c : Controller} (h : create config = .ok c)
    (before after : List Op) (hfresh : before = [] ∨ before.getLast? = some .reset)
    (hreset : .reset ∉ after) (hstat : .resetStatistics ∉ after) :
    (c.run before).1.ConservesEvents after := by
  have hbooks := conserves_run (conserves_fresh h hfresh) hstat hreset
  rw [List.nil_append, List.nil_append, List.nil_append] at hbooks
  refine ⟨fun n op _ => offersInOrder _ op, hbooks.entries, hbooks.accepted, hbooks.dropped, ?_⟩
  calc ((c.run before).1.run after).1.events.rejected
      = (gather overflowed (c.run before).1 after).length := hbooks.rejected
    _ = (gather overflowed (c.run before).1 after).countP (fun e => !e.completes) +
          tally blocks (c.run before).1 after := by
        rw [← refused_completions_run, Nat.add_comm]
        simpa using List.length_eq_countP_add_countP Event.completes
    _ = _ := by rw [← hbooks.dropped]; rfl

/-- With room for two events, a stall fills the queue: a second fault, its page request and a failing
    command are dropped, and a SYNC has to wait until the events are returned. -/
theorem events_conserved_two_policies :
    let config : Configuration := { queues := { events := 2 } }
    let c := start config [] [] .empty 0
    let ask (a : UInt64) : Op := .translate ⟨1, 0, a, .read, .nonSecure⟩
    let after : List Op := [.configure 1 { faultMode := .stall }, .createPasid 1 0, ask 0x1000,
      ask 0x5000, .submitCommand (.cfgiSte 9), .submitCommand .sync, .processCommands, .processEvents,
      .submitCommand (.atcInv 1 0 0x1000 0x1000), .processCommands]
    let d := ((c.run [.reset]).1.run after).1
    create config = .ok c ∧ .reset ∉ after ∧ .resetStatistics ∉ after ∧
      (gather released (c.run [.reset]).1 after).map Event.kind =
        [.translationFault, .priPageRequest] ∧
      d.events.entries.map Event.kind = [.commandSyncCompletion, .atcInvalidateCompletion] ∧
      d.counters.eventsDropped = 3 ∧ d.events.rejected = 4 ∧
      (c.run [.reset]).1.ConservesEvents after := by
  intro config c ask after d
  have hreset : .reset ∉ after := by simp [after, ask]
  have hstat : .resetStatistics ∉ after := by simp [after, ask]
  have hc : create config = .ok c := rfl
  exact ⟨hc, hreset, hstat, by decide +kernel, by decide +kernel, by decide +kernel,
    by decide +kernel, events_conserved hc [.reset] after (Or.inr rfl) hreset hstat⟩

end Controller

end Iommu
