/-
  The events that an operation offers to the event queue.

  Five producers share the queue.  A call to translate that fails offers the event of its fault, and a
  page request event behind it if the transaction was recorded as stalled; of the commands, one that fails
  offers an error event, an executed ATC invalidation its completion, and a SYNC reached in front its own
  (`offered`).  Two policies meet a full queue: the completion of a SYNC is refused and the SYNC
  waits, anything else is dropped and counted.

  `Outbox` is the queue together with that count.  Every operation that neither drains nor resizes the
  queue takes the outbox through its `offered` events, in order (`outbox_translate`,
  `outbox_processCommands`), or leaves it alone (`outbox_step`).  Of the completions of SYNCs only
  the last one offered by a call can be refused, and it is when the call reports that it is blocked
  (`refused_completions`).
-/
import Iommu.Proofs.Command.Order
import Iommu.Proofs.Fault.Ledger
import Iommu.Proofs.Queue.Offers
import Iommu.Proofs.Stall.Lifecycle

namespace Iommu

/-- Whether the event reports a completed SYNC. -/
def Event.completes (e : Event) : Bool := e.kind = .commandSyncCompletion

/-! ## The outbox -/

/-- The event queue and the number of events dropped. -/
structure Outbox where
  queue : Queue Event
  dropped : Nat

namespace Outbox

/-- Offers an event.  One that does not fit is dropped and counted, unless it completes a SYNC. -/
def offer (b : Outbox) (e : Event) : Outbox :=
  { queue := b.queue.push e
    dropped := b.dropped + (b.queue.isFull && !e.completes).toNat }

/-- Offers events one after the other. -/
def offerAll (b : Outbox) (es : List Event) : Outbox := es.foldl offer b

/-- Events are offered one after the other. -/
theorem offerAll_append (b : Outbox) (es fs : List Event) :
    b.offerAll (es ++ fs) = (b.offerAll es).offerAll fs := List.foldl_append

/-- The queue of an outbox takes what a queue takes. -/
theorem queue_offerAll (b : Outbox) (es : List Event) :
    (b.offerAll es).queue = b.queue.pushAll es := by
  induction es generalizing b with
  | nil => rfl
  | cons e es ih => exact ih (b.offer e)

/-- What is refused is counted as dropped, but for completions of SYNCs. -/
theorem dropped_offerAll (b : Outbox) (es : List Event) : (b.offerAll es).dropped =
    b.dropped + (b.queue.refused es).countP fun e => !e.completes := by
  induction es generalizing b with
  | nil => rfl
  | cons e es ih =>
    show ((b.offer e).offerAll es).dropped = _
    rw [ih, Queue.refused, List.countP_append, ← Nat.add_assoc]
    congr 1
    cases h : b.queue.isFull with
    | true =>
      rw [if_neg (by simpa [Queue.isFull] using h), List.countP_singleton, offer, h, Bool.true_and]
      cases e.completes <;> rfl
    | false =>
      rw [if_pos (Queue.isFull_eq_false.1 h), offer, h]
      rfl

end Outbox

namespace Controller

/-- The event queue and the number of events dropped. -/
def outbox (c : Controller) : Outbox := ⟨c.events, c.counters.eventsDropped⟩

/-! ## What is offered -/

/-- An event with the time of the controller. -/
def stamped (c : Controller) (e : Event) : Event := { e with timestamp := c.stamp }

/-- Whether the command that ran names a stream that was not configured. -/
def Turn.fails (t : Turn) : Bool :=
  t.command.kind.targetsStream && !t.before.isConfigured t.command.stream

/-- The event of some kind that a command offers about its stream, PASID and page. -/
def Turn.event (t : Turn) (kind : EventKind) : Event :=
  t.before.stamped (.plain kind t.command.stream t.command.pasid t.command.start)

/-- The events that a command offers when it runs. -/
def Turn.offers (t : Turn) : List Event :=
  if t.command.isSync then [t.before.completion]
  else if t.fails then [t.event .configurationError]
  else if t.command.kind = .atcInv then [t.event .atcInvalidateCompletion]
  else []

/-- The events that an operation offers to the event queue, in order. -/
def offered (c : Controller) : Op → List Event
  | .translate t =>
    match (c.translate t).2 with
    | .ok _ => []
    | .error e =>
      c.stamped (.ofFault (c.faultRecord t e)) ::
        if c.records (.translate t) then
          [c.stamped (.plain .priPageRequest t.stream t.pasid t.address)]
        else []
  | .processCommands =>
    c.processed.flatMap Turn.offers ++
      if c.processCommands.2.blocked then [c.completion] else []
  | _ => []

/-- Whether an operation stops at a SYNC that has to wait. -/
def blocks (c : Controller) : Op → Bool
  | .processCommands => c.processCommands.2.blocked
  | _ => false

/-! ## Calls to translate -/

/-- Whatever the controller reports goes to the outbox, with the time. -/
theorem outbox_emit (c : Controller) {e : Event} (h : e.completes = false) :
    (c.emit e).outbox = c.outbox.offer (c.stamped e) := by
  have hstamped : (c.stamped e).completes = false := h
  rw [emit_eq, Outbox.offer, hstamped, Bool.not_false, Bool.and_true]
  rfl

/-- A fault completes nothing. -/
theorem completes_ofFault (r : FaultRecord) : (Event.ofFault r).completes = false := by
  cases h : r.kind <;> simp [Event.completes, Event.ofFault, EventKind.ofFault, h]

/-- A fault is reported by one event. -/
theorem outbox_reportFault (c : Controller) (t : Transaction) (f : StageFault) :
    (c.reportFault t f).outbox = c.outbox.offer
      (c.stamped (.ofFault (.ofTransaction t f.error.faultKind f.stage c.stamp))) :=
  outbox_emit _ (completes_ofFault _)

/-- The stalls that a call leaves tell whether it offers a page request event. -/
def requested (c : Controller) (t : Transaction) (stalls : StallTable) : List Event :=
  if stalls.stalls = c.stalls.stalls ++ [⟨t, c.stamp⟩] then
    [c.stamped (.plain .priPageRequest t.stream t.pasid t.address)]
  else []

/-- A call that leaves the stalls as they were asks for nothing. -/
theorem requested_self (c : Controller) (t : Transaction) : c.requested t c.stalls = [] := by
  rw [requested, if_neg (by simp)]

/-- A report changes neither the stalls nor the time. -/
theorem requested_reportFault (c : Controller) (t : Transaction) (f : StageFault) :
    (c.reportFault t f).stalls = c.stalls ∧ (c.reportFault t f).requested t = c.requested t := by
  rw [reportFault]
  dsimp only
  rw [emit_eq]
  exact ⟨rfl, rfl⟩

/-- A transaction that is held back offers an event when it is recorded, and not when it overflows. -/
theorem outbox_stall (c : Controller) (t : Transaction) :
    (c.stall t).outbox = c.outbox.offerAll (c.requested t (c.stall t).stalls) := by
  cases hfull : c.pageRequests.isFull with
  | true =>
    have hstalls : (c.stall t).stalls = c.stalls := by simp [stall, hfull]
    rw [hstalls, requested_self]
    simp [stall, hfull, outbox, Outbox.offerAll]
  | false =>
    have hstalls : (c.stall t).stalls.stalls = c.stalls.stalls ++ [⟨t, c.stamp⟩] := by
      simp [stall, hfull, emit_eq, StallTable.add]
    rw [requested, if_pos hstalls, stall, if_neg (by simp [hfull])]
    exact outbox_emit _ rfl

/-- What a call that ends in some state with some outcome offers. -/
def offeredBy (c : Controller) (t : Transaction) (x : Controller × Except Error Translation) :
    List Event :=
  match x.2 with
  | .ok _ => []
  | .error e => c.stamped (.ofFault (c.faultRecord t e)) :: c.requested t x.1.stalls

/-- What a call offers can be told from what it answers and stalls. -/
theorem offered_translate (c : Controller) (t : Transaction) :
    c.offered (.translate t) = c.offeredBy t (c.translate t) := by
  simp only [offered, offeredBy, requested, records, decide_eq_true_eq]
  rfl

/-- A call offers the event of its fault, and then that of its page request. -/
theorem outbox_translate (c : Controller) (t : Transaction) :
    (c.translate t).1.outbox = c.outbox.offerAll (c.offered (.translate t)) := by
  rw [offered_translate]
  -- a walk that fails has changed the streams, the cache and the shared logs
  have hmissed : ∀ s f, ∃ streams tlb resources,
      (c.lookupCache t).1.missed s t f = { c with streams, tlb, resources } := by
    intro s f
    rw [lookupCache_eq]
    exact ⟨_, _, _, rfl⟩
  refine translate_cases (P := fun x => x.1.outbox = c.outbox.offerAll (c.offeredBy t x)) ?_ ?_ ?_
    ?_ ?_
  · intro hn
    have hstalls := (requested_reportFault c t (.unstaged (.streamNotConfigured t.stream))).1
    show _ = c.outbox.offerAll (c.stamped (.ofFault (c.faultRecord t _)) ::
      c.requested t (c.reportFault t _).stalls)
    rw [faultRecord_of_none hn, hstalls, requested_self]
    exact outbox_reportFault c t _
  · intro s e _ _
    rw [lookupCache_eq]
    rfl
  · intro s r epoch _ _
    rw [remember_eq, lookupCache_eq]
    rfl
  · intro s f hs hf _
    obtain ⟨streams, tlb, resources, hd⟩ := hmissed s f
    rw [hd]
    generalize hdef : ({ c with streams, tlb, resources } : Controller) = d
    have hstalls : (d.reportFault t f).stalls = c.stalls := by
      rw [(requested_reportFault d t f).1, ← hdef]
    show _ = c.outbox.offerAll (c.stamped (.ofFault (c.faultRecord t f.error)) ::
      c.requested t (d.reportFault t f).stalls)
    rw [faultRecord_of_walk hs hf, hstalls, requested_self, ← hdef]
    exact outbox_reportFault _ t f
  · intro s f hs hf _ _
    obtain ⟨streams, tlb, resources, hd⟩ := hmissed s f
    rw [hd]
    generalize hdef : ({ c with streams, tlb, resources } : Controller) = d
    have hstall := outbox_stall (d.reportFault t f) t
    rw [(requested_reportFault d t f).2, outbox_reportFault, ← hdef] at hstall
    show _ = c.outbox.offerAll (c.stamped (.ofFault (c.faultRecord t f.error)) ::
      c.requested t ((d.reportFault t f).stall t).stalls)
    rw [faultRecord_of_walk hs hf, ← hdef]
    exact hstall

/-- No call to translate completes a barrier. -/
theorem completes_translate (c : Controller) (t : Transaction) :
    ∀ e ∈ c.offered (.translate t), e.completes = false := by
  intro e he
  rw [offered] at he
  split at he
  · cases he
  · rcases List.mem_cons.1 he with rfl | he
    · exact completes_ofFault _
    · split at he
      · rw [List.mem_singleton.1 he]
        rfl
      · cases he

/-! ## Commands in front -/

/-- The completion of a SYNC is never counted as dropped. -/
theorem outbox_offerCompletion (c : Controller) :
    c.offerCompletion.outbox = c.outbox.offer c.completion := by
  have hcompletes : c.completion.completes = true := rfl
  rw [Outbox.offer, hcompletes, Bool.not_true, Bool.and_false]
  rfl

/-- A command fails exactly if it names a stream that is not configured. -/
theorem fails_runFront {c c' : Controller} {cmd : Command} {report report' : CommandReport}
    (h : c.runFront cmd report = some (c', report')) :
    (cmd.isSync = true ∧ (Turn.mk c cmd c').fails = false ∧ c.events.isFull = false ∧
      c' = c.offerCompletion.countSync.consume ∧ report' = { report with syncs := report.syncs + 1 }) ∨
    (cmd.isSync = false ∧ (Turn.mk c cmd c').fails = false ∧
      (∃ done, c.execute cmd = .ok done ∧ c' = done.consume) ∧
      report' = { report with executed := report.executed + 1 }) ∨
    (cmd.isSync = false ∧ (Turn.mk c cmd c').fails = true ∧ c' = (c.failCommand cmd).consume ∧
      report' = { report with failed := report.failed + 1 }) := by
  have hfails : (Turn.mk c cmd c').fails =
      (cmd.kind.targetsStream && !c.streams.contains cmd.stream) := rfl
  rw [Std.ExtTreeMap.contains_eq_isSome_getElem?] at hfails
  rw [runFront] at h
  split at h
  · rename_i hsync
    have hkind : cmd.kind = .sync := by simpa [Command.isSync] using hsync
    split at h
    · cases h
    · rename_i hroom
      obtain ⟨rfl, rfl⟩ := Prod.mk.inj (Option.some.inj h)
      refine Or.inl ⟨hsync, ?_, by simpa using hroom, rfl, rfl⟩
      rw [hfails, hkind]
      rfl
  · rename_i hother
    have hother : cmd.isSync = false := by simpa using hother
    split at h
    · rename_i done hd
      obtain ⟨rfl, rfl⟩ := Prod.mk.inj (Option.some.inj h)
      refine Or.inr (Or.inl ⟨hother, ?_, ⟨done, hd, rfl⟩, rfl⟩)
      obtain ⟨s, hs, -⟩ | ⟨htarget, -⟩ | ⟨htarget, -⟩ := execute_eq_ok hd
      · rw [hfails, hs, Option.isSome_some, Bool.not_true, Bool.and_false]
      · rw [hfails, htarget, Bool.false_and]
      · rw [hfails, htarget, Bool.false_and]
    · rename_i e he
      obtain ⟨rfl, rfl⟩ := Prod.mk.inj (Option.some.inj h)
      refine Or.inr (Or.inr ⟨hother, ?_, rfl, rfl⟩)
      obtain ⟨htarget, hn⟩ := execute_eq_error he
      rw [hfails, htarget, hn]
      rfl

/-- The command in front takes the outbox through what it offers. -/
theorem outbox_runFront {c c' : Controller} {cmd : Command} {report report' : CommandReport}
    (h : c.runFront cmd report = some (c', report')) :
    c'.outbox = c.outbox.offerAll (Turn.mk c cmd c').offers := by
  obtain ⟨hsync, -, -, rfl, -⟩ | ⟨hother, hfails, ⟨done, hd, rfl⟩, -⟩ |
    ⟨hother, hfails, rfl, -⟩ := fails_runFront h
  · rw [Turn.offers, if_pos hsync]
    exact outbox_offerCompletion c
  · rw [Turn.offers, if_neg (by simp [hother]), hfails, if_neg Bool.false_ne_true]
    obtain ⟨s, -, rfl⟩ | ⟨-, hsync, -⟩ | ⟨htarget, -, rfl⟩ := execute_eq_ok hd
    · unfold executeOn
      cases cmd.kind with
      | atcInv => exact outbox_emit _ rfl
      | prefetchAddr =>
        dsimp only
        rw [prefetch_eq]
        rfl
      | _ => rfl
    · rw [hother] at hsync
      cases hsync
    · have hkind : cmd.kind ≠ .atcInv := fun hk => by simp [hk, CommandKind.targetsStream] at htarget
      rw [if_neg hkind]
      rfl
  · rw [Turn.offers, if_neg (by simp [hother]), hfails, if_pos rfl]
    exact outbox_emit _ rfl

/-- The turn of a command offers at most one event. -/
theorem events_runFront {c c' : Controller} {cmd : Command} {report report' : CommandReport}
    (h : c.runFront cmd report = some (c', report')) :
    c'.events = c.events.pushAll (Turn.mk c cmd c').offers := by
  have hqueue := congrArg Outbox.queue (outbox_runFront h)
  rwa [Outbox.queue_offerAll] at hqueue

/-- The completion of a SYNC that runs finds room. -/
theorem refused_runFront {c c' : Controller} {cmd : Command} {report report' : CommandReport}
    (h : c.runFront cmd report = some (c', report')) :
    ∀ e ∈ c.events.refused (Turn.mk c cmd c').offers, e.completes = false := by
  intro e he
  obtain ⟨hsync, hroom, rfl⟩ | ⟨hother, -⟩ | ⟨hother, -⟩ := runFront_eq_some h
  · rw [Turn.offers, if_pos hsync, Queue.refused, if_pos (Queue.isFull_eq_false.1 hroom)] at he
    cases he
  all_goals
    have hmem := Queue.mem_of_mem_refused he
    rw [Turn.offers, if_neg (by simp [hother])] at hmem
    split at hmem
    · rw [List.mem_singleton.1 hmem]
      rfl
    · split at hmem
      · rw [List.mem_singleton.1 hmem]
        rfl
      · cases hmem

/-! ## Along the links -/

namespace Linked

variable {c d : Controller} {ts : List Turn}

/-- Turns offer their events one after the other. -/
theorem outbox (h : Linked c ts d) :
    d.outbox = c.outbox.offerAll (ts.flatMap Turn.offers) := by
  induction h with
  | stop => rfl
  | turn _ hf _ ih =>
    rw [ih, outbox_runFront hf, List.flatMap_cons, Outbox.offerAll_append]

/-- The event queue takes what the turns offer. -/
theorem events_pushAll (h : Linked c ts d) :
    d.events = c.events.pushAll (ts.flatMap Turn.offers) := by
  have hqueue := congrArg Outbox.queue h.outbox
  rwa [Outbox.queue_offerAll] at hqueue

/-- No turn has its completion refused. -/
theorem refused_completions (h : Linked c ts d) :
    ∀ e ∈ c.events.refused (ts.flatMap Turn.offers), e.completes = false := by
  induction h with
  | stop =>
    intro e he
    cases he
  | turn _ hf _ ih =>
    intro e he
    rw [List.flatMap_cons, Queue.refused_append, List.mem_append] at he
    rcases he with he | he
    · exact refused_runFront hf e he
    · rw [← events_runFront hf] at he
      exact ih e he

/-- No time passes while commands run, so a SYNC that waits would complete at the time of the call. -/
theorem completion (h : Linked c ts d) : d.completion = c.completion := by
  induction h with
  | stop => rfl
  | turn _ hf _ ih =>
    have hclock := congrArg Controller.clock (ran_runFront hf)
    rw [ih, Controller.completion, Controller.completion, stamp, stamp, hclock]

end Linked

/-- Where a call stops at a SYNC, the completion is offered to a full queue. -/
theorem Ends.outbox {d d' : Controller} {blocked : Bool} (h : Ends d d' blocked) :
    d'.outbox = d.outbox.offerAll (if blocked then [d.completion] else []) := by
  cases h with
  | drained => rfl
  | blocked _ _ hfull =>
    refine Eq.trans ?_ (outbox_offerCompletion d)
    rw [offerCompletion, Queue.push_of_isFull hfull]

/-- The completion that ends a call is refused. -/
theorem Ends.refused {d d' : Controller} {blocked : Bool} (h : Ends d d' blocked) :
    d.events.refused (if blocked then [d.completion] else []) =
      if blocked then [d.completion] else [] := by
  cases h with
  | drained => rfl
  | blocked _ _ hfull =>
    rw [if_pos rfl, Queue.refused, if_neg (by simpa [Queue.isFull] using hfull)]
    rfl

/-! ## Operations -/

/-- The report counts the turns that fail, and the SYNCs. -/
theorem report_fails (cmds : List Command) (c : Controller) (report : CommandReport) :
    (c.runCommands report cmds).2.failed =
        report.failed + (c.turns report cmds).countP Turn.fails ∧
      (c.runCommands report cmds).2.syncs =
        report.syncs + (c.turns report cmds).countP fun t => t.command.isSync := by
  induction cmds generalizing c report with
  | nil => exact ⟨rfl, rfl⟩
  | cons cmd rest ih =>
    rw [turns, runCommands]
    cases hf : c.runFront cmd report with
    | none => exact ⟨rfl, rfl⟩
    | some x =>
      obtain ⟨hfailed, hsyncs⟩ := ih x.1 x.2
      dsimp only
      rw [hfailed, hsyncs, List.countP_cons, List.countP_cons]
      obtain ⟨hsync, hfails, -, -, hreport⟩ | ⟨hother, hfails, -, hreport⟩ |
        ⟨hother, hfails, -, hreport⟩ := fails_runFront hf
      · rw [hreport, hfails, hsync, if_neg Bool.false_ne_true, if_pos rfl]
        exact ⟨rfl, Nat.add_right_comm ..⟩
      · rw [hreport, hfails, hother, if_neg Bool.false_ne_true]
        exact ⟨rfl, rfl⟩
      · rw [hreport, hfails, hother, if_neg Bool.false_ne_true, if_pos rfl]
        exact ⟨Nat.add_right_comm .., rfl⟩

/-- A call offers what its turns do, and the completion that it ends with. -/
theorem outbox_processCommands (c : Controller) :
    c.processCommands.1.outbox = c.outbox.offerAll (c.offered .processCommands) := by
  obtain ⟨d, hlinked, hends⟩ := c.processesInOrder.runs
  rw [hends.outbox, hlinked.outbox, offered, hlinked.completion, Outbox.offerAll_append]

/-- Whether an operation empties the event queue, or may give it another size. -/
def Op.reshapesEvents : Op → Bool
  | .processEvents => true
  | .clearEvents => true
  | .updateConfiguration _ _ => true
  | .resetStatistics => true
  | .reset => true
  | _ => false

/-- Every other operation takes the outbox through the events that it offers. -/
theorem outbox_step (c : Controller) {op : Op} (h : op.reshapesEvents = false) :
    (c.step op).1.outbox = c.outbox.offerAll (c.offered op) := by
  have hconfined : ∀ d, Confined c d → d.outbox = c.outbox := by
    intro d hd
    rw [hd]
    rfl
  cases op with
  | translate t => exact outbox_translate c t
  | submitCommand cmd => rfl
  | processCommands => exact outbox_processCommands c
  | clearCommands => rfl
  | submitPageRequest r =>
    show (c.submitPageRequest r).1.outbox = c.outbox
    rw [submitPageRequest_eq]
    rfl
  | processPageRequests => rfl
  | clearPageRequests =>
    show c.clearPageRequests.1.outbox = c.outbox
    rw [clearPageRequests_eq]
    rfl
  | processEvents => cases h
  | clearEvents => cases h
  | addSink s => rfl
  | enableCaching enabled => cases enabled <;> rfl
  | updateConfiguration new found => cases h
  | resetStatistics => cases h
  | reset => cases h
  | elapse ns => rfl
  | _ => exact hconfined _ (confined_step rfl)

/-- Of the completions that an operation offers one is refused, when a SYNC has to wait. -/
theorem refused_completions (c : Controller) (op : Op) :
    (c.events.refused (c.offered op)).countP Event.completes = (c.blocks op).toNat := by
  cases op with
  | translate t =>
    refine List.countP_eq_zero.2 fun e he => ?_
    rw [completes_translate c t e (Queue.mem_of_mem_refused he)]
    exact Bool.false_ne_true
  | processCommands =>
    obtain ⟨d, hlinked, hends⟩ := c.processesInOrder.runs
    have hquiet : (c.events.refused (c.processed.flatMap Turn.offers)).countP Event.completes = 0 :=
      List.countP_eq_zero.2 fun e he => by simp [hlinked.refused_completions e he]
    have hlast := hends.refused
    rw [hlinked.events_pushAll, hlinked.completion] at hlast
    rw [offered, Queue.refused_append, List.countP_append, hquiet, Nat.zero_add, hlast, blocks]
    cases c.processCommands.2.blocked <;> rfl
  | _ => rfl

end Controller

end Iommu
