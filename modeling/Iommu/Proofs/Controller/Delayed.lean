/-
  Two controllers that differ in time stamps and in the epoch of the cache.

  `Delayed ns n c d` says that `d` is `c` with its clock `ns` ahead and its cache `n` epochs ahead, and
  that the stamps of everything queued and logged are the only other difference.  Cached translations
  are stamped `ns` later (`Tlb.later`), so they are of one age on both clocks.

  The same operation makes the same of both and answers the same, up to stamps (`Delayed.step`): it
  finds the same streams and the same translations, takes the same branches, and changes the parts that
  carry stamps as `Timeless` has it.  Only time is to pass alike on both clocks.  So nothing that
  happens later tells the two apart (`Delayed.run_measured`).
-/
import Iommu.Proofs.Controller.Clock
import Iommu.Proofs.Controller.Timeless
import Iommu.Proofs.Tlb.Later

namespace Iommu

/-- Both fail with the same error, or both succeed with related results. -/
inductive Corresponds {α β : Type} (R : α → β → Prop) : Except Error α → Except Error β → Prop
  | ok {a : α} {b : β} : R a b → Corresponds R (.ok a) (.ok b)
  | error (e : Error) : Corresponds R (.error e) (.error e)

namespace Controller

/-- The second controller is the first with its clock and the epoch of its cache ahead. -/
structure Delayed (ns n : Nat) (c d : Controller) : Prop where
  config : c.config = d.config
  streams : c.streams = d.streams
  tlb : d.tlb = c.tlb.later ns n
  events : c.events.map Event.untimed = d.events.map Event.untimed
  commands : c.commands.map Command.untimed = d.commands.map Command.untimed
  pageRequests : c.pageRequests.map PageRequest.untimed = d.pageRequests.map PageRequest.untimed
  stalls : c.stalls.untimed = d.stalls.untimed
  faultLog : c.faultLog.untimed = d.faultLog.untimed
  counters : c.counters = d.counters
  sinks : c.sinks = d.sinks
  deliveries : c.deliveries.map Delivery.untimed = d.deliveries.map Delivery.untimed
  resources : c.resources.untimed = d.resources.untimed
  clock : d.clock = c.clock + ns

namespace Delayed

variable {ns n : Nat} {c d : Controller}

/-! ## Single parts -/

/-- The same streams are configured. -/
theorem stream (h : Delayed ns n c d) (id : StreamId) : c.stream id = d.stream id := by
  rw [Controller.stream, h.streams, Controller.stream]

/-- An epoch read now on one is, as many further on, the epoch on the other. -/
theorem epoch (h : Delayed ns n c d) : d.tlb.epoch = c.tlb.epoch + n := congrArg Tlb.epoch h.tlb

/-- Streams carry no stamps, so the same stream may be written on both. -/
theorem setStream (h : Delayed ns n c d) (s : Stream) :
    Delayed ns n (c.setStream s) (d.setStream s) :=
  { h with streams := congrArg (·.insert s.id s) h.streams }

/-- The same may be done to all streams of both. -/
theorem mapStreams (h : Delayed ns n c d) (f : Stream → Stream) :
    Delayed ns n (c.mapStreams f) (d.mapStreams f) :=
  { h with streams := congrArg (·.map fun _ s => f s) h.streams }

/-- Counters are the same on both, and what is counted is. -/
theorem count (h : Delayed ns n c d) (f : Counters → Counters) :
    Delayed ns n { c with counters := f c.counters } { d with counters := f d.counters } :=
  { h with counters := congrArg f h.counters }

/-- A translation counts the same on both. -/
theorem countTranslation (h : Delayed ns n c d) (success : Bool) :
    Delayed ns n (c.countTranslation success) (d.countTranslation success) := by
  cases success with
  | false => exact h.count fun x =>
      { x with translations := x.translations + 1, failures := x.failures + 1 }
  | true => exact h.count fun x =>
      { x with translations := x.translations + 1, successes := x.successes + 1 }

/-- The configurations stay the same when the same is done to both. -/
theorem reconfigure (h : Delayed ns n c d) (f : Configuration → Configuration) :
    Delayed ns n { c with config := f c.config } { d with config := f d.config } :=
  { h with config := congrArg f h.config }

/-- Shared tables and logs may be replaced on both, as long as they agree up to stamps. -/
theorem setResources (h : Delayed ns n c d) {r r' : Resources} (hr : r.untimed = r'.untimed) :
    Delayed ns n { c with resources := r } { d with resources := r' } :=
  { h with resources := hr }

/-- An invalidation removes the same entries from both. -/
theorem invalidate (h : Delayed ns n c d) {f : Tlb → Tlb × Nat}
    (hf : ∀ t, f (t.later ns n) = ((f t).1.later ns n, (f t).2)) :
    Delayed ns n { c with tlb := (f c.tlb).1 } { d with tlb := (f d.tlb).1 } ∧
      (f c.tlb).2 = (f d.tlb).2 := by
  have hlater := h.tlb ▸ hf c.tlb
  exact ⟨{ h with tlb := congrArg Prod.fst hlater }, (congrArg Prod.snd hlater).symm⟩

/-- Both caches hold the same number of entries, and both are emptied. -/
theorem invalidateAll (h : Delayed ns n c d) :
    Delayed ns n c.invalidateAll.1 d.invalidateAll.1 ∧ c.invalidateAll.2 = d.invalidateAll.2 :=
  h.invalidate fun t => t.invalidateAll_later ns n

/-- The entries of a stream are the same but for their stamps. -/
theorem invalidateStream (h : Delayed ns n c d) (id : StreamId) :
    Delayed ns n (c.invalidateStream id).1 (d.invalidateStream id).1 ∧
      (c.invalidateStream id).2 = (d.invalidateStream id).2 :=
  h.invalidate (f := fun t => t.invalidateStream id) fun t => t.invalidateStream_later ns n id

/-- The entries of a PASID are the same but for their stamps. -/
theorem invalidatePasid (h : Delayed ns n c d) (id : StreamId) (pasid : Pasid) :
    Delayed ns n (c.invalidatePasid id pasid).1 (d.invalidatePasid id pasid).1 ∧
      (c.invalidatePasid id pasid).2 = (d.invalidatePasid id pasid).2 :=
  h.invalidate (f := fun t => t.invalidatePasid id pasid) fun t =>
    t.invalidatePasid_later ns n id pasid

/-- The entries of a range are the same but for their stamps. -/
theorem invalidateRange (h : Delayed ns n c d) (id : StreamId) (pasid : Pasid) (range : PageRange) :
    Delayed ns n (c.invalidateRange id pasid range).1 (d.invalidateRange id pasid range).1 ∧
      (c.invalidateRange id pasid range).2 = (d.invalidateRange id pasid range).2 :=
  h.invalidate (f := fun t => t.invalidateRange id pasid range) fun t =>
    t.invalidateRange_later ns n id pasid range

/-- The same stalls are released, and as many counted. -/
theorem release (h : Delayed ns n c d) (selected : Transaction → Bool)
    (f : Nat → Counters → Counters) :
    Delayed ns n
      { c with stalls := (c.stalls.release selected).1
               counters := f (c.stalls.release selected).2 c.counters }
      { d with stalls := (d.stalls.release selected).1
               counters := f (d.stalls.release selected).2 d.counters } := by
  obtain ⟨hstalls, hreleased⟩ := StallTable.release_congr h.stalls selected
  exact { h with stalls := hstalls, counters := by rw [hreleased, h.counters] }

/-- As many are terminated, and counted, on both. -/
theorem terminate (h : Delayed ns n c d) (selected : Transaction → Bool) :
    Delayed ns n
      ({ c with stalls := (c.stalls.release selected).1 }.addTerminated (c.stalls.release selected).2)
      ({ d with stalls := (d.stalls.release selected).1 }.addTerminated
        (d.stalls.release selected).2) :=
  h.release selected fun k x => { x with stallsTerminated := x.stallsTerminated + k }

theorem terminateStream (h : Delayed ns n c d) (id : StreamId) :
    Delayed ns n (c.terminateStream id) (d.terminateStream id) :=
  h.terminate fun x => x.stream = id

theorem terminatePasid (h : Delayed ns n c d) (id : StreamId) (pasid : Pasid) :
    Delayed ns n (c.terminatePasid id pasid) (d.terminatePasid id pasid) :=
  h.terminate fun x => x.stream = id && x.pasid = pasid

/-- A request that is dropped terminates the same transactions on both. -/
theorem terminateRequest (h : Delayed ns n c d) (r : PageRequest) :
    Delayed ns n (c.terminateRequest r) (d.terminateRequest r) :=
  h.terminate (StallTable.inRange r.stream r.pasid (.ofPage r.address))

theorem resume (h : Delayed ns n c d) (id : StreamId) (pasid : Pasid) (range : PageRange) :
    Delayed ns n (c.resume id pasid range) (d.resume id pasid range) :=
  h.release (StallTable.inRange id pasid range) fun k x =>
    { x with stallsResumed := x.stallsResumed + k }

/-! ## Events -/

/-- Events that agree up to stamps find both event queues equally full. -/
theorem emit (h : Delayed ns n c d) {e e' : Event} (he : e.untimed = e'.untimed) :
    Delayed ns n (c.emit e) (d.emit e') := by
  have hfull := Queue.isFull_congr h.events
  rw [emit_eq, emit_eq]
  exact { h with events := Queue.push_congr h.events he, counters := by rw [hfull, h.counters] }

/-- Both logs discard at the same time; their records differ in the stamp. -/
theorem reportFault (h : Delayed ns n c d) (t : Transaction) (f : StageFault) :
    Delayed ns n (c.reportFault t f) (d.reportFault t f) := by
  have hstamp : (FaultRecord.ofTransaction t f.error.faultKind f.stage c.stamp).untimed =
      (FaultRecord.ofTransaction t f.error.faultKind f.stage d.stamp).untimed := rfl
  obtain ⟨hrecords, hlost⟩ := FaultLog.record_congr h.faultLog hstamp
  have hcounters := congr (congrArg (fun (x : Counters) (b : Bool) =>
    { x with faults := x.faults + 1, faultsDiscarded := x.faultsDiscarded + b.toNat }) h.counters)
    hlost
  unfold Controller.reportFault
  refine emit ?_ rfl
  exact { h with faultLog := hrecords, counters := hcounters }

/-- Both tables know the same waiting pages, so both ask or neither does. -/
theorem stall (h : Delayed ns n c d) (t : Transaction) :
    Delayed ns n (c.stall t) (d.stall t) := by
  have hstamp : ({ PageRequest.ofTransaction t with timestamp := c.stamp } : PageRequest).untimed =
      ({ PageRequest.ofTransaction t with timestamp := d.stamp } : PageRequest).untimed := rfl
  have hrequest := Queue.push_congr h.pageRequests hstamp
  have hcounters := congrArg (fun x : Counters => { x with pageRequests := x.pageRequests + 1 })
    h.counters
  unfold Controller.stall
  rw [Queue.isFull_congr h.pageRequests]
  dsimp only
  split
  · exact { h with pageRequests := hrequest, counters := by rw [h.counters] }
  · refine emit ?_ rfl
    exact { h with
      pageRequests := hrequest
      stalls := StallTable.add_congr h.stalls t c.stamp d.stamp
      counters := hcounters }

/-! ## Translation -/

/-- The same entry is found on both, as its age is the same on both clocks. -/
theorem lookupCache (h : Delayed ns n c d) (t : Transaction) :
    Delayed ns n (c.lookupCache t).1 (d.lookupCache t).1 ∧
      (d.lookupCache t).2 = (c.lookupCache t).2.map fun e => e.later ns := by
  have hon : c.config.cache.enabled = d.config.cache.enabled := by rw [h.config]
  unfold Controller.lookupCache
  rw [hon]
  split
  · have hlater := c.tlb.lookup_later ns n c.clock (.ofAddress t.stream t.pasid t.address t.security)
    rw [← h.tlb, ← h.clock] at hlater
    exact ⟨{ h with tlb := congrArg Prod.fst hlater }, congrArg Prod.snd hlater⟩
  · exact ⟨h, rfl⟩

/-- A translation is stored on both or on neither: the epochs it was made in and those it is
    stored in are equally far apart. -/
theorem remember (h : Delayed ns n c d) (t : Transaction) (r : Translation) (epoch : Nat) :
    Delayed ns n (c.remember t r epoch) (d.remember t r (epoch + n)) := by
  have hon : c.config.cache.enabled = d.config.cache.enabled := by rw [h.config]
  unfold Controller.remember
  rw [hon]
  split
  · have hlater := c.tlb.insertIfCurrent_later ns n c.clock
      (.ofTranslation t.stream t.pasid t.address r) epoch
    rw [← h.tlb, ← h.clock] at hlater
    exact { h with tlb := congrArg Prod.fst hlater }
  · exact h

/-- A walk reads tables only, and those are the same. -/
theorem walkStream (h : Delayed ns n c d) (s : Stream) (t : Transaction) :
    Delayed ns n (c.walkStream s t).1 (d.walkStream s t).1 ∧
      (c.walkStream s t).2 = (d.walkStream s t).2 := by
  obtain ⟨s', r, r', outcome, hc, hd, hr⟩ := s.resolve_congr h.resources c.clock d.clock t
  have hset := (h.setStream s').setResources hr
  unfold Controller.walkStream
  rw [hc, hd, h.epoch]
  cases outcome with
  | ok x => exact ⟨hset.remember t x c.tlb.epoch, rfl⟩
  | error f =>
    have hreported := hset.reportFault t f
    dsimp only
    split
    · exact ⟨hreported.stall t, rfl⟩
    · exact ⟨hreported, rfl⟩

/-- A transaction is refused, found in the cache or walked on both alike. -/
theorem attempt (h : Delayed ns n c d) (t : Transaction) :
    Delayed ns n (c.attempt t).1 (d.attempt t).1 ∧ (c.attempt t).2 = (d.attempt t).2 := by
  unfold Controller.attempt
  rw [h.stream t.stream]
  cases d.stream t.stream with
  | error e => exact ⟨h.reportFault t _, rfl⟩
  | ok s =>
    obtain ⟨hlooked, hfound⟩ := h.lookupCache t
    rcases hc : c.lookupCache t with ⟨c₁, found⟩
    rcases hd : d.lookupCache t with ⟨d₁, found'⟩
    rw [hc, hd] at hlooked hfound
    dsimp only at hfound
    subst hfound
    cases found with
    | none => exact hlooked.walkStream s t
    | some e =>
      -- the entries differ in their stamps, and only the permissions are looked at
      have hallows : (e.later ns).permissions = e.permissions := rfl
      simp only [Option.map_some, hallows]
      split
      · exact ⟨hlooked.setStream _, rfl⟩
      · exact hlooked.walkStream s t

/-- Both answer the same translation or the same error. -/
theorem translate (h : Delayed ns n c d) (t : Transaction) :
    Delayed ns n (c.translate t).1 (d.translate t).1 ∧ (c.translate t).2 = (d.translate t).2 := by
  obtain ⟨hstate, hanswer⟩ := h.attempt t
  unfold Controller.translate
  rcases hc : c.attempt t with ⟨c₁, outcome⟩
  rcases hd : d.attempt t with ⟨d₁, outcome'⟩
  rw [hc, hd] at hstate hanswer
  dsimp only at hanswer
  subst hanswer
  cases outcome with
  | ok r => exact ⟨hstate.countTranslation true, rfl⟩
  | error e => exact ⟨hstate.countTranslation false, rfl⟩

/-! ## Streams -/

/-- An operation on one stream, which both find alike. -/
theorem withStream (h : Delayed ns n c d) {α β : Type} {R : α → β → Prop} (id : StreamId)
    {f : Stream → Except Error α} {g : Stream → Except Error β}
    (hfg : ∀ s, Corresponds R (f s) (g s)) :
    Corresponds R (match c.stream id with | .error e => .error e | .ok s => f s)
      (match d.stream id with | .error e => .error e | .ok s => g s) := by
  rw [h.stream id]
  cases d.stream id with
  | error e => exact .error e
  | ok s => exact hfg s

/-- What a stream answers on its own is carried on alike. -/
theorem withResult (x : Except Error Stream) {f g : Stream → Controller}
    (hfg : ∀ s, Delayed ns n (f s) (g s)) :
    Corresponds (Delayed ns n) (match x with | .error e => .error e | .ok s => .ok (f s))
      (match x with | .error e => .error e | .ok s => .ok (g s)) := by
  cases x with
  | error e => exact .error e
  | ok s => exact .ok (hfg s)

/-- The same checks are made of the same streams. -/
theorem configure (h : Delayed ns n c d) (id : StreamId) (config : StreamConfig) :
    Corresponds (Delayed ns n) (c.configure id config) (d.configure id config) := by
  unfold Controller.configure streamCount
  rw [h.streams, h.config]
  cases d.streams[id]? with
  | some s => exact withResult _ fun s' => ((h.setStream s').invalidateStream id).1
  | none =>
    dsimp only
    split
    · exact .error _
    · exact withResult _ h.setStream

/-- What goes with a stream is the same on both. -/
theorem removeStream (h : Delayed ns n c d) (id : StreamId) :
    Corresponds (Delayed ns n) (c.removeStream id) (d.removeStream id) := by
  refine h.withStream id fun _ => .ok ?_
  have herased : Delayed ns n { c with streams := c.streams.erase id }
      { d with streams := d.streams.erase id } :=
    { h with streams := congrArg (·.erase id) h.streams }
  exact (herased.invalidateStream id).1.terminateStream id

/-- What goes with a PASID is the same on both. -/
theorem removePasid (h : Delayed ns n c d) (id : StreamId) (pasid : Pasid) :
    Corresponds (Delayed ns n) (c.removePasid id pasid) (d.removePasid id pasid) :=
  h.withStream id fun s => withResult (s.removePasid pasid) fun s' =>
    ((h.setStream s').invalidatePasid id pasid).1.terminatePasid id pasid

/-- Both say alike whether the page was mapped. -/
theorem unmap (h : Delayed ns n c d) (id : StreamId) (pasid : Pasid) (a : UInt64) :
    Corresponds (fun x x' => Delayed ns n x.1 x'.1 ∧ x.2 = x'.2) (c.unmap id pasid a)
      (d.unmap id pasid a) := by
  refine h.withStream id fun s => ?_
  cases s.unmap pasid a with
  | error e => exact .error e
  | ok x => exact .ok ⟨((h.setStream x.1).invalidateRange id pasid (.single a)).1, rfl⟩

/-- The shared tables are the same. -/
theorem editTable (h : Delayed ns n c d) (id : TableId) (change : PageTable.Op) :
    Corresponds (fun x x' => Delayed ns n x.1 x'.1 ∧ x.2 = x'.2) (c.editTable id change)
      (d.editTable id change) := by
  unfold Controller.editTable
  rw [Resources.table_congr h.resources]
  cases (d.resources.table id).step change with
  | error e => exact .error e
  | ok x => exact .ok ⟨h.setResources (Resources.setTable_congr h.resources id x.1), rfl⟩

/-! ## Commands -/

/-- What is fetched is stored in the epoch in force, which is as much further on the other. -/
theorem prefetch (h : Delayed ns n c d) (s : Stream) (cmd : Command) :
    Delayed ns n (c.prefetch s cmd) (d.prefetch s cmd) := by
  have hon : c.config.cache.enabled = d.config.cache.enabled := by rw [h.config]
  unfold Controller.prefetch
  rw [hon]
  split
  · dsimp only
    rw [s.walk_congr h.resources, h.epoch]
    split
    · exact h.remember ..
    · exact h
  · exact h

/-- On the same stream a command does the same. -/
theorem executeOn (h : Delayed ns n c d) (s : Stream) (cmd : Command) :
    Delayed ns n (c.executeOn s cmd) (d.executeOn s cmd) := by
  unfold Controller.executeOn
  split
  · exact (h.invalidateStream _).1
  · exact (h.invalidateStream _).1
  · exact (h.invalidatePasid _ _).1
  · exact (h.invalidateRange _ _ _).1
  · exact (h.invalidateRange _ _ _).1.emit rfl
  · exact h.prefetch s cmd
  · exact (h.resume _ _ _).count fun x => { x with pageResponses := x.pageResponses + 1 }
  · exact h.resume _ _ _
  · exact h

/-- A command fails on both or does the same on both. -/
theorem execute (h : Delayed ns n c d) (cmd : Command) :
    Corresponds (Delayed ns n) (c.execute cmd) (d.execute cmd) := by
  unfold Controller.execute
  split
  · exact h.withStream _ fun s => .ok (h.executeOn s cmd)
  · split
    · exact .ok h
    · exact .ok h.invalidateAll.1

theorem consume (h : Delayed ns n c d) : Delayed ns n c.consume d.consume :=
  { h.count (fun x => { x with commandsProcessed := x.commandsProcessed + 1 }) with
    commands := Queue.popFront_congr h.commands }

theorem offerCompletion (h : Delayed ns n c d) :
    Delayed ns n c.offerCompletion d.offerCompletion :=
  { h with events := Queue.push_congr h.events rfl }

theorem failCommand (h : Delayed ns n c d) (cmd : Command) :
    Delayed ns n (c.failCommand cmd) (d.failCommand cmd) :=
  (h.count fun x => { x with commandsFailed := x.commandsFailed + 1 }).emit rfl

/-- The command in front has to wait in both, or has the same effect. -/
theorem runFront (h : Delayed ns n c d) (cmd : Command) (report : CommandReport) :
    c.runFront cmd report = none ∧ d.runFront cmd report = none ∨
      ∃ c' d' report', c.runFront cmd report = some (c', report') ∧
        d.runFront cmd report = some (d', report') ∧ Delayed ns n c' d' := by
  unfold Controller.runFront
  rw [Queue.isFull_congr h.events]
  split
  · split
    · exact Or.inl ⟨rfl, rfl⟩
    · have hcounted := h.offerCompletion.count fun x =>
        { x with syncCompletions := x.syncCompletions + 1 }
      exact Or.inr ⟨_, _, _, rfl, rfl, hcounted.consume⟩
  · have hexecuted := h.execute cmd
    generalize c.execute cmd = r, d.execute cmd = r' at hexecuted
    cases hexecuted with
    | ok hdone => exact Or.inr ⟨_, _, _, rfl, rfl, hdone.consume⟩
    | error e => exact Or.inr ⟨_, _, _, rfl, rfl, (h.failCommand cmd).consume⟩

/-- The same commands are executed, in the same order, up to the same barrier. -/
theorem runCommands (h : Delayed ns n c d) (report : CommandReport) (cmds : List Command) :
    Delayed ns n (c.runCommands report cmds).1 (d.runCommands report cmds).1 ∧
      (c.runCommands report cmds).2 = (d.runCommands report cmds).2 := by
  induction cmds generalizing c d report with
  | nil => exact ⟨h, rfl⟩
  | cons cmd cmds ih =>
    rw [Controller.runCommands, Controller.runCommands]
    obtain ⟨hc, hd⟩ | ⟨c', d', report', hc, hd, hdone⟩ := h.runFront cmd report
    · rw [hc, hd]
      exact ⟨h.offerCompletion, rfl⟩
    · rw [hc, hd]
      exact ih hdone report'

/-- The stamp of a command makes no difference to its effect. -/
theorem runCommands_untimed (c : Controller) (report : CommandReport) (cmds : List Command) :
    c.runCommands report (cmds.map Command.untimed) = c.runCommands report cmds := by
  induction cmds generalizing c report with
  | nil => rfl
  | cons cmd cmds ih =>
    have hfront : c.runFront cmd.untimed report = c.runFront cmd report := rfl
    rw [List.map_cons, Controller.runCommands, Controller.runCommands, hfront]
    split
    · exact ih ..
    · rfl

/-- The reports are the same. -/
theorem processCommands (h : Delayed ns n c d) :
    Delayed ns n c.processCommands.1 d.processCommands.1 ∧
      c.processCommands.2 = d.processCommands.2 := by
  unfold Controller.processCommands
  rw [← runCommands_untimed c, ← runCommands_untimed d, Queue.entries_congr h.commands]
  exact h.runCommands ..

/-- The command gets another stamp on each, and is refused on both or on neither. -/
theorem submitCommand (h : Delayed ns n c d) (cmd : Command) :
    Delayed ns n (c.submitCommand cmd).1 (d.submitCommand cmd).1 ∧
      (c.submitCommand cmd).2 = (d.submitCommand cmd).2 := by
  have hstamp : ({ cmd with timestamp := c.stamp } : Command).untimed =
      ({ cmd with timestamp := d.stamp } : Command).untimed := rfl
  obtain ⟨hcommands, hanswer⟩ := Queue.submit_congr h.commands hstamp .command
  exact ⟨{ h with commands := hcommands }, hanswer⟩

/-! ## Page requests -/

/-- Both request queues are equally full, and so is what they report. -/
theorem submitPageRequest (h : Delayed ns n c d) (r : PageRequest) :
    Delayed ns n (c.submitPageRequest r).1 (d.submitPageRequest r).1 ∧
      (c.submitPageRequest r).2 = (d.submitPageRequest r).2 := by
  have hstamp : ({ r with timestamp := c.stamp } : PageRequest).untimed =
      ({ r with timestamp := d.stamp } : PageRequest).untimed := rfl
  have hpush := Queue.push_congr h.pageRequests hstamp
  unfold Controller.submitPageRequest Queue.submit
  rw [Queue.isFull_congr h.pageRequests, Queue.capacity_congr h.pageRequests]
  cases d.pageRequests.isFull with
  | true => exact ⟨{ h with pageRequests := hpush }, rfl⟩
  | false =>
    have hcounted := h.count fun x => { x with pageRequests := x.pageRequests + 1 }
    exact ⟨{ hcounted with pageRequests := hpush }, rfl⟩

/-- Offers the response to a page request, without its stamp, to a queue of commands. -/
def offerResponse (q : Queue Command) (r : PageRequest) : Bool × Queue Command :=
  (!q.isFull, q.push (.priResp r.stream r.pasid r.address))

/-- Without stamps the responses are offered as with them. -/
theorem offerResponse_untimed (c : Controller) (q : Queue Command) (r : PageRequest) :
    offerResponse (q.map Command.untimed) r.untimed =
      (!q.isFull, (q.push (c.response r)).map Command.untimed) := by
  rw [offerResponse, Queue.isFull_map, Queue.map_push]
  rfl

/-- What answering the page requests leaves, without stamps. -/
theorem offer_untimed (c : Controller) :
    Queue.offer offerResponse (c.commands.map Command.untimed)
        (c.pageRequests.entries.map PageRequest.untimed) =
      (c.processPageRequests.2,
        c.processPageRequests.1.pageRequests.entries.map PageRequest.untimed,
        c.processPageRequests.1.commands.map Command.untimed) :=
  Queue.offer_map (offerResponse_untimed c) c.commands c.pageRequests.entries

/-- As many responses fit into one command queue as into the other. -/
theorem processPageRequests (h : Delayed ns n c d) :
    Delayed ns n c.processPageRequests.1 d.processPageRequests.1 ∧
      c.processPageRequests.2 = d.processPageRequests.2 := by
  have hsame := offer_untimed c
  rw [h.commands, Queue.entries_congr h.pageRequests, offer_untimed d] at hsame
  obtain ⟨hanswer, hrest⟩ := Prod.mk.inj hsame
  obtain ⟨hentries, hcommands⟩ := Prod.mk.inj hrest
  exact ⟨{ h with
    commands := hcommands.symm
    pageRequests := Queue.refill_congr h.pageRequests hentries.symm }, hanswer.symm⟩

/-- Requests are dropped one after the other on both. -/
theorem foldl_terminateRequest (h : Delayed ns n c d) (rs : List PageRequest) :
    Delayed ns n (rs.foldl Controller.terminateRequest c) (rs.foldl Controller.terminateRequest d) := by
  induction rs generalizing c d with
  | nil => exact h
  | cons r rs ih => exact ih (h.terminateRequest r)

/-- The stamp of a page request makes no difference to the stalls that it ends. -/
theorem foldl_terminateRequest_untimed (c : Controller) (rs : List PageRequest) :
    (rs.map PageRequest.untimed).foldl Controller.terminateRequest c =
      rs.foldl Controller.terminateRequest c := List.foldl_map

/-- The same transactions wait for the requests that are dropped. -/
theorem clearPageRequests (h : Delayed ns n c d) :
    Delayed ns n c.clearPageRequests.1 d.clearPageRequests.1 ∧
      c.clearPageRequests.2 = d.clearPageRequests.2 := by
  have hcleared : Delayed ns n { c with pageRequests := c.pageRequests.clear }
      { d with pageRequests := d.pageRequests.clear } :=
    { h with pageRequests := Queue.clear_congr h.pageRequests }
  unfold Controller.clearPageRequests
  dsimp only
  rw [← foldl_terminateRequest_untimed _ c.pageRequests.entries,
    ← foldl_terminateRequest_untimed _ d.pageRequests.entries, Queue.entries_congr h.pageRequests]
  exact ⟨hcleared.foldl_terminateRequest _, Queue.size_congr h.pageRequests⟩

/-! ## Drained events -/

/-- The events handed out agree up to stamps. -/
theorem processEvents (h : Delayed ns n c d) :
    Delayed ns n c.processEvents.1 d.processEvents.1 ∧
      c.processEvents.2.map Event.untimed = d.processEvents.2.map Event.untimed := by
  have hentries := Queue.entries_congr h.events
  obtain ⟨hsinks, hnotes⟩ := Sink.deliver_congr c.sinks hentries
  unfold Controller.processEvents
  rw [← h.sinks]
  refine ⟨{ h with events := Queue.clear_congr h.events, sinks := hsinks, deliveries := ?_ }, hentries⟩
  show (c.deliveries ++ _).map _ = (d.deliveries ++ _).map _
  rw [List.map_append, List.map_append, h.deliveries]
  exact congrArg _ hnotes

/-! ## Configurations -/

/-- A queue fits or does not by its size, which stamps have no part in. -/
theorem resizeTo {α β : Type} {f : α → β} {q q' : Queue α} (h : q.map f = q'.map f)
    (name : QueueName) (size : Nat) :
    Corresponds (fun x x' => x.map f = x'.map f) (q.resizeTo name size) (q'.resizeTo name size) := by
  unfold Queue.resizeTo Queue.resize?
  rw [Queue.size_congr h]
  by_cases hfits : q'.size ≤ size
  · rw [if_pos hfits, if_pos hfits]
    exact .ok (congrArg (fun x : Queue β => { x with capacity := size }) h)
  · rw [if_neg hfits, if_neg hfits]
    exact .error _

/-- The cache keeps as much under a new configuration, and is emptied for the same reasons. -/
theorem reshapeTlb_later (t : Tlb) (ns n : Nat) (old new : Configuration) :
    Controller.reshapeTlb (t.later ns n) old new = (Controller.reshapeTlb t old new).later ns n := by
  unfold Controller.reshapeTlb
  dsimp only
  rw [Tlb.resize_later, Tlb.setMaxAgeMs_later, Tlb.invalidateAll_later]
  split <;> rfl

/-- A new configuration makes the same of both. -/
theorem adopt (h : Delayed ns n c d) (new : Configuration) {events events' : Queue Event}
    {commands commands' : Queue Command} {pageRequests pageRequests' : Queue PageRequest}
    (he : events.map Event.untimed = events'.map Event.untimed)
    (hc : commands.map Command.untimed = commands'.map Command.untimed)
    (hp : pageRequests.map PageRequest.untimed = pageRequests'.map PageRequest.untimed) :
    Delayed ns n (c.adopt new events commands pageRequests)
      (d.adopt new events' commands' pageRequests') := by
  obtain ⟨hlog, hlost⟩ := FaultLog.setCapacity_congr h.faultLog new.queues.faultLog.toNat
  have hcounters := congr (congrArg (fun (x : Counters) (k : Nat) =>
    { x with faultsDiscarded := x.faultsDiscarded + k }) h.counters) hlost
  have htlb : Controller.reshapeTlb d.tlb d.config new =
      (Controller.reshapeTlb c.tlb c.config new).later ns n := by
    rw [h.tlb, ← h.config, reshapeTlb_later]
  have hlimited := h.mapStreams fun s => s.setLimits (limitsOf new)
  exact { hlimited with
    config := rfl
    tlb := htlb
    events := he
    commands := hc
    pageRequests := hp
    faultLog := hlog
    counters := hcounters }

/-- What fails first is the same on both, and so is the stream that is found for one choice. -/
theorem updateConfiguration (h : Delayed ns n c d) (new : Configuration) (found : StreamId) :
    Corresponds (Delayed ns n) (c.updateConfiguration new found) (d.updateConfiguration new found) := by
  unfold Controller.updateConfiguration overfullStream? streamCount
  rw [h.streams]
  cases new.problem? with
  | some p => exact .error _
  | none =>
    dsimp only
    split
    · exact .error _
    · cases (d.streams[found]?.filter fun s => new.widths.pasids.toNat < s.pasidCount).or
          (d.streams.values.find? fun s => new.widths.pasids.toNat < s.pasidCount) with
      | some s => exact .error _
      | none =>
        -- each resize fails on both or on neither, so the first failure is the same
        have hevents := resizeTo h.events .event new.queues.events.toNat
        have hcommands := resizeTo h.commands .command new.queues.commands.toNat
        have hrequests := resizeTo h.pageRequests .pageRequest new.queues.pageRequests.toNat
        generalize c.events.resizeTo .event new.queues.events.toNat = x,
          d.events.resizeTo .event new.queues.events.toNat = x' at hevents
        generalize c.commands.resizeTo .command new.queues.commands.toNat = y,
          d.commands.resizeTo .command new.queues.commands.toNat = y' at hcommands
        generalize c.pageRequests.resizeTo .pageRequest new.queues.pageRequests.toNat = z,
          d.pageRequests.resizeTo .pageRequest new.queues.pageRequests.toNat = z' at hrequests
        cases hevents with
        | error e => exact .error e
        | ok he =>
          cases hcommands with
          | error e => exact .error e
          | ok hc =>
            cases hrequests with
            | error e => exact .error e
            | ok hp => exact .ok (h.adopt new he hc hp)

/-- Both caches are emptied when caching is turned off. -/
theorem enableCaching (h : Delayed ns n c d) (enabled : Bool) :
    Delayed ns n (c.enableCaching enabled) (d.enableCaching enabled) := by
  have hset := h.reconfigure fun x => { x with cache := { x.cache with enabled } }
  unfold Controller.enableCaching
  dsimp only
  split
  · exact hset
  · exact hset.invalidateAll.1

/-- The counters are the same, and so they are when they are zero. -/
theorem resetStatistics (h : Delayed ns n c d) :
    Delayed ns n c.resetStatistics d.resetStatistics :=
  { h.mapStreams Stream.resetStatistics with
    counters := rfl
    tlb := (congrArg Tlb.resetStatistics h.tlb).trans (Tlb.resetStatistics_later ..)
    events := Queue.resetCounters_congr h.events
    commands := Queue.resetCounters_congr h.commands
    pageRequests := Queue.resetCounters_congr h.pageRequests }

/-- Everything that carries a stamp goes; clock and epoch stay as far apart. -/
theorem reset (h : Delayed ns n c d) : Delayed ns n c.reset d.reset := by
  have hcleared := h.invalidateAll.1
  unfold Controller.reset
  refine resetStatistics ?_
  exact { hcleared with
    streams := rfl
    events := Queue.clear_congr h.events
    commands := Queue.clear_congr h.commands
    pageRequests := Queue.clear_congr h.pageRequests
    stalls := rfl
    faultLog := FaultLog.clear_congr h.faultLog }

/-! ## Steps -/

/-- Steps of operations that fail alike or succeed alike. -/
theorem settle (h : Delayed ns n c d) {r r' : Except Error Controller}
    (hr : Corresponds (Delayed ns n) r r') :
    Delayed ns n (c.settle r).1 (d.settle r').1 ∧ (c.settle r).2 = (d.settle r').2 := by
  cases hr with
  | ok hdone => exact ⟨hdone, rfl⟩
  | error e => exact ⟨h, rfl⟩

/-- Likewise with a flag to answer. -/
theorem settleFlag (h : Delayed ns n c d) {r r' : Except Error (Controller × Bool)}
    (hr : Corresponds (fun x x' => Delayed ns n x.1 x'.1 ∧ x.2 = x'.2) r r') :
    Delayed ns n (c.settleFlag r).1 (d.settleFlag r').1 ∧
      (c.settleFlag r).2 = (d.settleFlag r').2 := by
  cases hr with
  | ok hdone =>
    refine ⟨hdone.1, ?_⟩
    simp only [Controller.settleFlag]
    rw [hdone.2]
  | error e => exact ⟨h, rfl⟩

/-- The same operation leaves the states apart as they were, and answers the same up to stamps.  The
    passing of time is left to `elapse`. -/
theorem step (h : Delayed ns n c d) {op : Op} (hop : ∀ ns, op ≠ .elapse ns) :
    Delayed ns n (c.step op).1 (d.step op).1 ∧
      (c.step op).2.map Answer.untimed = (d.step op).2.map Answer.untimed := by
  have hsettle : ∀ {r r'}, Corresponds (Delayed ns n) r r' →
      Delayed ns n (c.settle r).1 (d.settle r').1 ∧
        (c.settle r).2.map Answer.untimed = (d.settle r').2.map Answer.untimed := fun hr =>
    ⟨(h.settle hr).1, congrArg (Except.map Answer.untimed) (h.settle hr).2⟩
  have hsettleFlag : ∀ {r r'}, Corresponds (fun x x' => Delayed ns n x.1 x'.1 ∧ x.2 = x'.2) r r' →
      Delayed ns n (c.settleFlag r).1 (d.settleFlag r').1 ∧
        (c.settleFlag r).2.map Answer.untimed = (d.settleFlag r').2.map Answer.untimed := fun hr =>
    ⟨(h.settleFlag hr).1, congrArg (Except.map Answer.untimed) (h.settleFlag hr).2⟩
  have hanswer : ∀ {α : Type} {x x' : Except Error α} (f : α → Answer), x = x' →
      (x.map f).map Answer.untimed = (x'.map f).map Answer.untimed := fun f hx => by rw [hx]
  have hcount : ∀ {k k' : Nat}, k = k' → (Except.ok (.count k) : Outcome).map Answer.untimed =
      (Except.ok (.count k') : Outcome).map Answer.untimed := fun hk => by rw [hk]
  cases op with
  | configure id config => exact hsettle (h.configure id config)
  | removeStream id => exact hsettle (h.removeStream id)
  | enable id => exact hsettle (h.withStream id fun s => .ok (h.setStream _))
  | disable id => exact hsettle (h.withStream id fun s => .ok ((h.setStream _).invalidateStream id).1)
  | setFaultMode mode => exact ⟨h.mapStreams fun s => s.setFaultMode mode, rfl⟩
  | attachTable id table =>
    exact hsettle (h.withStream id fun s => .ok ((h.setStream _).invalidateStream id).1)
  | attachLog id log => exact hsettle (h.withStream id fun s => .ok (h.setStream _))
  | createPasid id pasid =>
    exact hsettle (h.withStream id fun s => withResult (s.createPasid pasid) h.setStream)
  | removePasid id pasid => exact hsettle (h.removePasid id pasid)
  | clearPasids id =>
    exact hsettle (h.withStream id fun s =>
      .ok (((h.setStream _).invalidateStream id).1.terminateStream id))
  | map id pasid m =>
    exact hsettle (h.withStream id fun s => withResult (s.map pasid m) fun s' =>
      ((h.setStream s').invalidateRange id pasid _).1)
  | unmap id pasid a => exact hsettleFlag (h.unmap id pasid a)
  | mapPages id pasid ms =>
    exact hsettle (h.withStream id fun s => withResult (s.mapPages pasid ms) fun s' =>
      ((h.setStream s').invalidatePasid id pasid).1)
  | unmapPages id pasid as =>
    exact hsettle (h.withStream id fun s => withResult (s.unmapPages pasid as) fun s' =>
      ((h.setStream s').invalidatePasid id pasid).1)
  | editTable id change => exact hsettleFlag (h.editTable id change)
  | translate t => exact ⟨(h.translate t).1, hanswer _ (h.translate t).2⟩
  | submitCommand cmd => exact ⟨(h.submitCommand cmd).1, hanswer _ (h.submitCommand cmd).2⟩
  | processCommands =>
    obtain ⟨hstate, hreport⟩ := h.processCommands
    exact ⟨hstate, congrArg (fun r => (Except.ok (.report r) : Outcome).map Answer.untimed) hreport⟩
  | clearCommands =>
    exact ⟨{ h with commands := Queue.clear_congr h.commands }, hcount (Queue.size_congr h.commands)⟩
  | submitPageRequest r =>
    exact ⟨(h.submitPageRequest r).1, hanswer _ (h.submitPageRequest r).2⟩
  | processPageRequests => exact ⟨h.processPageRequests.1, hcount h.processPageRequests.2⟩
  | clearPageRequests => exact ⟨h.clearPageRequests.1, hcount h.clearPageRequests.2⟩
  | processEvents =>
    obtain ⟨hstate, hevents⟩ := h.processEvents
    exact ⟨hstate, congrArg (fun es => Except.ok (Answer.events es)) hevents⟩
  | clearEvents =>
    exact ⟨{ h with events := Queue.clear_congr h.events }, hcount (Queue.size_congr h.events)⟩
  | addSink s => exact ⟨{ h with sinks := congrArg (· ++ [s]) h.sinks }, rfl⟩
  | invalidateAll => exact ⟨h.invalidateAll.1, hcount h.invalidateAll.2⟩
  | invalidateStream id => exact ⟨(h.invalidateStream id).1, hcount (h.invalidateStream id).2⟩
  | invalidatePasid id pasid =>
    exact ⟨(h.invalidatePasid id pasid).1, hcount (h.invalidatePasid id pasid).2⟩
  | enableCaching enabled => exact ⟨h.enableCaching enabled, rfl⟩
  | updateConfiguration new found => exact hsettle (h.updateConfiguration new found)
  | resetStatistics => exact ⟨h.resetStatistics, rfl⟩
  | reset => exact ⟨h.reset, rfl⟩
  | elapse ns => exact absurd rfl (hop ns)

/-! ## Runs -/

/-- Without stamps, clock and epoch the states are the same. -/
theorem timeless (h : Delayed ns n c d) : c.timeless = d.timeless := by
  have hentries : d.tlb.entries.map TlbEntry.untimed = c.tlb.entries.map TlbEntry.untimed := by
    rw [h.tlb, Tlb.later, List.map_map]
    rfl
  have htlb : { c.tlb with entries := c.tlb.entries.map TlbEntry.untimed, epoch := 0 } =
      ({ d.tlb with entries := d.tlb.entries.map TlbEntry.untimed, epoch := 0 } : Tlb) := by
    rw [hentries, h.tlb]
    rfl
  simp only [Controller.timeless, htlb, h.config, h.streams, h.events, h.commands, h.pageRequests,
    h.stalls, h.faultLog, h.counters, h.sinks, h.deliveries, h.resources]

/-- Statistics show no stamps. -/
theorem statistics (h : Delayed ns n c d) : c.statistics = d.statistics := by
  have htlb : c.tlb.statistics = d.tlb.statistics := by
    rw [h.tlb, Tlb.statistics, Tlb.statistics, Tlb.size_later]
    rfl
  rw [Controller.statistics, htlb, h.counters, streamCount, h.streams]
  rfl

/-- Time that passes as the later clock shows it leaves the states apart as they were. -/
theorem elapse (h : Delayed ns n c d) (hclock : d.clock < UInt64.size) (k : Nat) :
    Delayed ns n (c.elapse ((d.elapse k).clock - d.clock)) (d.elapse k) := by
  have hadvance : (d.elapse k).clock = (c.elapse ((d.elapse k).clock - d.clock)).clock + ns := by
    have hd := h.clock
    show min (d.clock + k) (UInt64.size - 1) =
      min (c.clock + (min (d.clock + k) (UInt64.size - 1) - d.clock)) (UInt64.size - 1) + ns
    omega
  exact { h with clock := hadvance }

/-- Any operation, when time is taken from the later clock. -/
theorem step_measured (h : Delayed ns n c d) (hclock : d.clock < UInt64.size) (op : Op) :
    Delayed ns n (c.step (d.measure op)).1 (d.step op).1 ∧
      (c.step (d.measure op)).2.map Answer.untimed = (d.step op).2.map Answer.untimed := by
  by_cases helapse : ∃ k, op = .elapse k
  · obtain ⟨k, rfl⟩ := helapse
    exact ⟨h.elapse hclock k, rfl⟩
  · have hop : ∀ k, op ≠ .elapse k := fun k hk => helapse ⟨k, hk⟩
    rw [measure_eq hop]
    exact h.step hop

/-- Hence any run, when its times are taken from the later clock. -/
theorem run_measured (h : Delayed ns n c d) (hclock : d.clock < UInt64.size) (ops : List Op) :
    Delayed ns n (c.run (d.measured ops)).1 (d.run ops).1 ∧
      (c.run (d.measured ops)).2.map (Except.map Answer.untimed) =
        (d.run ops).2.map (Except.map Answer.untimed) := by
  induction ops generalizing c d with
  | nil => exact ⟨h, rfl⟩
  | cons op ops ih =>
    obtain ⟨hstep, hanswer⟩ := h.step_measured hclock op
    obtain ⟨hrun, hanswers⟩ := ih hstep (clock_step_lt hclock op)
    refine ⟨hrun, ?_⟩
    rw [measured, run, run]
    simp only [List.map_cons, hanswer, hanswers]

end Delayed

end Controller

end Iommu
