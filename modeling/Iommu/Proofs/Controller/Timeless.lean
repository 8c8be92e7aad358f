/-
  The state without its time stamps.

  Faults, events, commands, page requests, stalls and cached translations are stamped with the time at
  which they come.  `untimed` takes the stamp off, one function for each kind of data and for the tables
  and logs that hold them, and `timeless` does so for the whole controller, with the clock and the epoch
  of the cache.

  But for the ages of cached translations, nothing that the controller does depends on a stamp, so its
  operations may be carried out without them: what a queue, a log, the stall table, the sinks and the
  shared resources do to stamped data, they do to the same data without stamps.
-/
import Iommu.Controller.Step

namespace Iommu

/-! ## Data without stamps -/

/-- A record without its stamp. -/
def FaultRecord.untimed (r : FaultRecord) : FaultRecord := { r with timestamp := 0 }

/-- An event without its stamp and without that of the fault in it. -/
def Event.untimed (e : Event) : Event :=
  { e with fault := e.fault.map FaultRecord.untimed, timestamp := 0 }

/-- A command without its stamp. -/
def Command.untimed (cmd : Command) : Command := { cmd with timestamp := 0 }

/-- A page request without its stamp. -/
def PageRequest.untimed (r : PageRequest) : PageRequest := { r with timestamp := 0 }

/-- A note of a sink without the stamps of the event. -/
def Delivery.untimed (d : Delivery) : Delivery := { d with event := d.event.untimed }

/-- A cached translation without its stamp. -/
def TlbEntry.untimed (e : TlbEntry) : TlbEntry := { e with timestamp := 0 }

/-- The stalled transactions without the times at which they were stalled. -/
def StallTable.untimed (t : StallTable) : StallTable := ⟨t.stalls.map fun s => { s with timestamp := 0 }⟩

/-- A log with its records without stamps. -/
def FaultLog.untimed (l : FaultLog) : FaultLog := { l with records := l.records.map FaultRecord.untimed }

/-- The shared logs without stamps; tables carry none. -/
def Resources.untimed (r : Resources) : Resources := { r with logs := r.logs.map fun _ l => l.untimed }

/-- A queue with its entries changed. -/
def Queue.map {α β : Type} (f : α → β) (q : Queue α) : Queue β :=
  ⟨q.entries.map f, q.capacity, q.accepted, q.rejected⟩

namespace Controller

/-- The state without time stamps, clock and epoch. -/
def timeless (c : Controller) : Controller :=
  { c with
    tlb := { c.tlb with entries := c.tlb.entries.map TlbEntry.untimed, epoch := 0 }
    events := c.events.map Event.untimed
    commands := c.commands.map Command.untimed
    pageRequests := c.pageRequests.map PageRequest.untimed
    stalls := c.stalls.untimed
    faultLog := c.faultLog.untimed
    deliveries := c.deliveries.map Delivery.untimed
    resources := c.resources.untimed
    clock := 0 }

/-- What an operation answers, without time stamps. -/
def Answer.untimed : Answer → Answer
  | .events es => .events (es.map Event.untimed)
  | a => a

/-- An outcome without time stamps, and with as much of an error as `mask` leaves of it. -/
def Outcome.untimed (mask : Error → Error) (o : Outcome) : Outcome := (o.map Answer.untimed).mapError mask

/-- Outcomes and state are the same but for time stamps, the clock and the epoch, and errors are as much
    the same as `mask` leaves of them. -/
structure SameUntimed (mask : Error → Error) (x y : Controller × List Outcome) : Prop where
  outcomes : x.2.map (Outcome.untimed mask) = y.2.map (Outcome.untimed mask)
  state : x.1.timeless = y.1.timeless
  statistics : x.1.statistics = y.1.statistics

end Controller

/-! ## Queues -/

namespace Queue

variable {α β σ τ : Type}

theorem size_map (f : α → β) (q : Queue α) : (q.map f).size = q.size := List.length_map ..

/-- Fullness is a matter of the number of entries. -/
theorem isFull_map (f : α → β) (q : Queue α) : (q.map f).isFull = q.isFull := by
  rw [isFull, size_map, isFull]
  rfl

/-- An entry is taken or refused before its stamp is looked at. -/
theorem map_push (f : α → β) (q : Queue α) (a : α) : (q.push a).map f = (q.map f).push (f a) := by
  rw [push, push, isFull_map]
  split
  · rfl
  · simp only [map, List.map_append, List.map_cons, List.map_nil]

/-- The entry in front is the one in front without stamps. -/
theorem map_popFront (f : α → β) (q : Queue α) : q.popFront.map f = (q.map f).popFront := by
  simp only [popFront, map, List.map_tail]

/-- Queues that look alike are full at once. -/
theorem isFull_congr {f : α → β} {q q' : Queue α} (h : q.map f = q'.map f) : q.isFull = q'.isFull := by
  rw [← isFull_map f q, h, isFull_map]

theorem size_congr {f : α → β} {q q' : Queue α} (h : q.map f = q'.map f) : q.size = q'.size := by
  rw [← size_map f q, h, size_map]

theorem entries_congr {f : α → β} {q q' : Queue α} (h : q.map f = q'.map f) :
    q.entries.map f = q'.entries.map f := congrArg Queue.entries h

theorem capacity_congr {f : α → β} {q q' : Queue α} (h : q.map f = q'.map f) :
    q.capacity = q'.capacity := by
  have hcapacity : (q.map f).capacity = (q'.map f).capacity := congrArg Queue.capacity h
  exact hcapacity

/-- Other entries, which look alike. -/
theorem refill_congr {f : α → β} {q q' : Queue α} (h : q.map f = q'.map f) {as as' : List α}
    (has : as.map f = as'.map f) :
    ({ q with entries := as } : Queue α).map f = ({ q' with entries := as' } : Queue α).map f := by
  have hrefilled : ({ q.map f with entries := as.map f } : Queue β) =
      { q'.map f with entries := as'.map f } := by rw [h, has]
  exact hrefilled

/-- Queues that agree take entries that agree, or both refuse. -/
theorem push_congr {f : α → β} {q q' : Queue α} (h : q.map f = q'.map f) {a a' : α} (ha : f a = f a') :
    (q.push a).map f = (q'.push a').map f := by
  rw [map_push, map_push, h, ha]

theorem popFront_congr {f : α → β} {q q' : Queue α} (h : q.map f = q'.map f) :
    q.popFront.map f = q'.popFront.map f := by
  rw [map_popFront, map_popFront, h]

theorem clear_congr {f : α → β} {q q' : Queue α} (h : q.map f = q'.map f) :
    q.clear.map f = q'.clear.map f :=
  congrArg (fun q : Queue β => q.clear) h

theorem resetCounters_congr {f : α → β} {q q' : Queue α} (h : q.map f = q'.map f) :
    q.resetCounters.map f = q'.resetCounters.map f :=
  congrArg (fun q : Queue β => q.resetCounters) h

/-- So they do when a refusal is an error, and it is the same error. -/
theorem submit_congr {f : α → β} {q q' : Queue α} (h : q.map f = q'.map f) {a a' : α} (ha : f a = f a')
    (name : QueueName) : (q.submit name a).1.map f = (q'.submit name a').1.map f ∧
      (q.submit name a).2 = (q'.submit name a').2 := by
  refine ⟨push_congr h ha, ?_⟩
  rw [submit, submit, isFull_congr h, capacity_congr h]

/-- What is offered may be changed first, if the receiver does the same to what is changed. -/
theorem offer_map {f : α → β} {g : σ → τ} {accept : σ → α → Bool × σ} {accept' : τ → β → Bool × τ}
    (h : ∀ s a, accept' (g s) (f a) = ((accept s a).1, g (accept s a).2)) (s : σ) (as : List α) :
    offer accept' (g s) (as.map f) =
      ((offer accept s as).1, (offer accept s as).2.1.map f, g (offer accept s as).2.2) := by
  induction as generalizing s with
  | nil => rfl
  | cons a as ih =>
    rw [List.map_cons, offer, offer, h]
    rcases accept s a with ⟨taken, s'⟩
    cases taken with
    | false => rfl
    | true => simp only [ih]

end Queue

/-! ## Stalls and logs -/

/-- Transactions are selected by what they ask for, not by when they were stalled. -/
theorem StallTable.untimed_release (t : StallTable) (selected : Transaction → Bool) :
    ((t.release selected).1.untimed, (t.release selected).2) = t.untimed.release selected := by
  simp only [release, untimed, List.filter_map, List.countP_map]
  rfl

/-- Tables that agree release the same transactions. -/
theorem StallTable.release_congr {t t' : StallTable} (h : t.untimed = t'.untimed)
    (selected : Transaction → Bool) :
    (t.release selected).1.untimed = (t'.release selected).1.untimed ∧
      (t.release selected).2 = (t'.release selected).2 := by
  have hsame := (untimed_release t selected).trans ((congrArg (release · selected) h).trans
    (untimed_release t' selected).symm)
  exact Prod.mk.inj hsame

/-- Tables that agree take a transaction in at any two times. -/
theorem StallTable.add_congr {t t' : StallTable} (h : t.untimed = t'.untimed) (x : Transaction)
    (stamp stamp' : UInt64) : (t.add ⟨x, stamp⟩).untimed = (t'.add ⟨x, stamp'⟩).untimed := by
  have hstalls := congrArg StallTable.stalls h
  simp only [untimed] at hstalls
  simp only [add, untimed, List.map_append, hstalls, List.map_cons, List.map_nil]

namespace FaultLog

/-- What is dropped is the oldest by its place, not by its stamp. -/
theorem untimed_trim (l : FaultLog) : l.trim.untimed = l.untimed.trim := by
  simp only [trim, untimed, excess, FaultLog.size, List.map_drop, List.length_map]

/-- How many are too many is a matter of their number. -/
theorem excess_untimed (l : FaultLog) : l.untimed.excess = l.excess := by
  simp only [untimed, excess, FaultLog.size, List.length_map]

theorem untimed_append (l : FaultLog) (r : FaultRecord) :
    (l.append r).untimed = l.untimed.append r.untimed := by
  simp only [append, untimed, List.map_append, List.map_cons, List.map_nil]

/-- A record is taken, and the oldest discarded, without a look at stamps. -/
theorem record_untimed (l : FaultLog) (r : FaultRecord) :
    l.untimed.record r.untimed = ((l.record r).1.untimed, (l.record r).2) := by
  simp only [record, untimed_trim, untimed_append]
  rw [← untimed_append, excess_untimed]

/-- Logs that agree discard at the same time. -/
theorem record_congr {l l' : FaultLog} (h : l.untimed = l'.untimed) {r r' : FaultRecord}
    (hr : r.untimed = r'.untimed) : (l.record r).1.untimed = (l'.record r').1.untimed ∧
      (l.record r).2 = (l'.record r').2 := by
  have hsame := (record_untimed l r).symm.trans ((congr (congrArg record h) hr).trans
    (record_untimed l' r'))
  exact Prod.mk.inj hsame

theorem clear_congr {l l' : FaultLog} (h : l.untimed = l'.untimed) :
    l.clear.untimed = l'.clear.untimed := by
  have hcleared : l.untimed.clear = l'.untimed.clear := congrArg FaultLog.clear h
  exact hcleared

/-- Logs that agree discard as many when they shrink. -/
theorem setCapacity_congr {l l' : FaultLog} (h : l.untimed = l'.untimed) (n : Nat) :
    (l.setCapacity n).1.untimed = (l'.setCapacity n).1.untimed ∧
      (l.setCapacity n).2 = (l'.setCapacity n).2 := by
  have hresize : ∀ x : FaultLog, x.untimed.setCapacity n =
      ((x.setCapacity n).1.untimed, (x.setCapacity n).2) := by
    intro x
    simp only [setCapacity, untimed_trim]
    exact Prod.ext rfl (excess_untimed { x with capacity := max 1 n })
  exact Prod.mk.inj ((hresize l).symm.trans ((congrArg (setCapacity · n) h).trans (hresize l')))

end FaultLog

/-! ## Shared resources -/

namespace Resources

variable {r r' : Resources}

/-- Tables carry no stamps, so resources that agree have the same tables, -/
theorem tables_congr (h : r.untimed = r'.untimed) : r.tables = r'.tables := by
  have htables : r.untimed.tables = r'.untimed.tables := congrArg Resources.tables h
  exact htables

/-- and the same one under each number. -/
theorem table_congr (h : r.untimed = r'.untimed) (id : TableId) : r.table id = r'.table id := by
  rw [table, tables_congr h, table]

/-- Writing the same table keeps resources in agreement. -/
theorem setTable_congr (h : r.untimed = r'.untimed) (id : TableId) (t : PageTable) :
    (r.setTable id t).untimed = (r'.setTable id t).untimed :=
  congrArg (fun x : Resources => x.setTable id t) h

/-- The log read without stamps is the log without stamps that is read. -/
theorem log_untimed (r : Resources) (id : LogId) : r.untimed.log id = (r.log id).untimed := by
  simp only [log, untimed, Std.ExtTreeMap.getD_eq_getD_getElem?, Std.ExtTreeMap.getElem?_map]
  cases r.logs[id]? <;> rfl

theorem untimed_setLog (r : Resources) (id : LogId) (l : FaultLog) :
    (r.setLog id l).untimed = r.untimed.setLog id l.untimed := by
  have hlogs : (r.logs.insert id l).map (fun _ l => l.untimed) =
      (r.logs.map fun _ l => l.untimed).insert id l.untimed := by
    refine Std.ExtTreeMap.ext_getElem? fun k => ?_
    simp only [Std.ExtTreeMap.getElem?_map, Std.ExtTreeMap.getElem?_insert]
    split <;> rfl
  simp only [setLog, untimed, hlogs]

/-- Records that agree may be added to the same log on both. -/
theorem record_congr (h : r.untimed = r'.untimed) (id : Option LogId) {f f' : FaultRecord}
    (hf : f.untimed = f'.untimed) : (r.record id f).untimed = (r'.record id f').untimed := by
  cases id with
  | none => exact h
  | some id =>
    have hlog : (r.log id).untimed = (r'.log id).untimed := by
      rw [← log_untimed, h, log_untimed]
    simp only [record, untimed_setLog, h, (FaultLog.record_congr hlog hf).1]

end Resources

/-- A walk reads no log. -/
theorem Stream.walk_congr (s : Stream) {r r' : Resources} (h : r.untimed = r'.untimed)
    (t : Transaction) : s.walk r t = s.walk r' t := by
  have htable : r.table = r'.table := funext (Resources.table_congr h)
  rw [walk, htable, walk]

/-- A walk with its traces leaves the same stream and answers the same; a fault is recorded in the same
    log. -/
theorem Stream.resolve_congr (s : Stream) {r r' : Resources} (h : r.untimed = r'.untimed)
    (clock clock' : Nat) (t : Transaction) :
    ∃ s' x x' outcome, s.resolve r clock t = ((s', x), outcome) ∧
      s.resolve r' clock' t = ((s', x'), outcome) ∧ x.untimed = x'.untimed := by
  unfold resolve
  rw [s.walk_congr h t]
  cases s.walk r' t with
  | ok x => exact ⟨_, _, _, _, rfl, rfl, h⟩
  | error f => exact ⟨_, _, _, _, rfl, rfl, Resources.record_congr h s.log rfl⟩

/-! ## Sinks -/

namespace Sink

/-- A sink decides by the event, not by its stamp. -/
theorem receive_untimed (s : Sink) (e : Event) : s.receive e.untimed =
    ((s.receive e).1, (s.receive e).2.1.map Delivery.untimed, (s.receive e).2.2) := by
  cases s <;> rfl

/-- So do all sinks together. -/
theorem receiveAll_untimed (sinks : List Sink) (e : Event) : receiveAll sinks e.untimed =
    ((receiveAll sinks e).1, (receiveAll sinks e).2.1.map Delivery.untimed,
      (receiveAll sinks e).2.2) := by
  simp only [receiveAll, receive_untimed, List.map_map, List.map_flatMap, List.flatMap_map]
  rfl

/-- And so the notes they take down agree. -/
theorem go_untimed (sinks added : List Sink) (notes : List Delivery) (es : List Event) :
    deliver.go sinks added (notes.map Delivery.untimed) (es.map Event.untimed) =
      ((deliver.go sinks added notes es).1,
        (deliver.go sinks added notes es).2.map Delivery.untimed) := by
  induction es generalizing sinks added notes with
  | nil => rfl
  | cons e es ih =>
    simp only [List.map_cons, deliver.go, receiveAll_untimed]
    rw [← List.map_append, ih]

/-- Sinks are registered, and notes taken, whatever the stamps. -/
theorem deliver_congr (sinks : List Sink) {es es' : List Event}
    (h : es.map Event.untimed = es'.map Event.untimed) :
    (deliver sinks es).1 = (deliver sinks es').1 ∧
      (deliver sinks es).2.map Delivery.untimed = (deliver sinks es').2.map Delivery.untimed := by
  have huntimed : ∀ es : List Event, deliver sinks (es.map Event.untimed) =
      ((deliver sinks es).1, (deliver sinks es).2.map Delivery.untimed) := go_untimed sinks [] []
  have hsame := (huntimed es).symm.trans ((congrArg (deliver sinks) h).trans (huntimed es'))
  exact Prod.mk.inj hsame

end Sink

end Iommu
