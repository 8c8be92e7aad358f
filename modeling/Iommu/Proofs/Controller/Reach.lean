/-
  How far an operation reaches into the state.

  A property of one part of the controller should not have to look at every operation that leaves the
  part alone.  Three statements say once what is touched:

  * an operation on streams, tables or the cache touches these and the stalls it terminates
    (`confined_step`);
  * the command in front touches the cache, the events, the stalls and six counters, and leaves the
    queue (`ran_runFront`), and so do those of a whole call (`processed_processCommands`);
  * a call to translate goes one of five ways (`translate_cases`), and touches neither commands nor
    configuration on any of them (`called_translate`).

  Whatever is emitted goes through `emit`, which offers one event to the event queue (`emit_eq`).
-/
import Iommu.Proofs.Controller.Core

namespace Iommu.Controller

/-! ## Single parts -/

/-- One event is offered to the queue, and one more counts as dropped if the queue is full. -/
theorem emit_eq (c : Controller) (e : Event) : c.emit e =
    { c with
      events := c.events.push { e with timestamp := c.stamp }
      counters := { c.counters with
        eventsDropped := c.counters.eventsDropped + c.events.isFull.toNat } } := by
  unfold emit
  cases c.events.isFull <;> rfl

/-- Storing a translation changes the cache alone. -/
theorem remember_eq (c : Controller) (t : Transaction) (r : Translation) (epoch : Nat) :
    c.remember t r epoch = { c with tlb := (c.remember t r epoch).tlb } := by
  unfold remember
  split <;> rfl

/-- A lookup changes the cache alone. -/
theorem lookupCache_eq (c : Controller) (t : Transaction) :
    (c.lookupCache t).1 = { c with tlb := (c.lookupCache t).1.tlb } := by
  unfold lookupCache
  split <;> rfl

/-- A prefetch changes the cache alone. -/
theorem prefetch_eq (c : Controller) (s : Stream) (cmd : Command) :
    c.prefetch s cmd = { c with tlb := (c.prefetch s cmd).tlb } := by
  unfold prefetch
  dsimp only
  split
  · split
    · exact remember_eq ..
    · rfl
  · rfl

/-- One request is offered to the queue, and counts if there is room for it. -/
theorem submitPageRequest_eq (c : Controller) (r : PageRequest) : (c.submitPageRequest r).1 =
    { c with
      pageRequests := c.pageRequests.push { r with timestamp := c.stamp }
      counters := { c.counters with
        pageRequests := c.counters.pageRequests + (!c.pageRequests.isFull).toNat } } := by
  rw [submitPageRequest, Queue.submit]
  cases c.pageRequests.isFull <;> rfl

/-- Discarding the page requests reaches the stalls and the count of those terminated. -/
theorem clearPageRequests_eq (c : Controller) : c.clearPageRequests.1 =
    { c with
      pageRequests := c.pageRequests.clear
      stalls := c.clearPageRequests.1.stalls
      counters := { c.counters with
        stallsTerminated := c.clearPageRequests.1.counters.stallsTerminated } } := by
  have hfold : ∀ (rs : List PageRequest) (d : Controller), rs.foldl terminateRequest d =
      { d with
        stalls := (rs.foldl terminateRequest d).stalls
        counters := { d.counters with
          stallsTerminated := (rs.foldl terminateRequest d).counters.stallsTerminated } } := by
    intro rs
    induction rs with
    | nil => exact fun _ => rfl
    | cons r rs ih => exact fun d => ih (d.terminateRequest r)
  exact hfold c.pageRequests.entries _

/-- Only a new configuration changes the configuration, but for the switch of the cache. -/
theorem config_step_eq {c : Controller} {op : Op}
    (hop : ∀ new found, op ≠ .updateConfiguration new found) :
    ∃ enabled, (c.step op).1.config =
      { c.config with cache := { c.config.cache with enabled } } := by
  by_cases hcaching : ∃ enabled, op = .enableCaching enabled
  · obtain ⟨enabled, rfl⟩ := hcaching
    refine ⟨enabled, ?_⟩
    cases enabled <;> rfl
  · exact ⟨c.config.cache.enabled, config_step op (fun b hb => hcaching ⟨b, hb⟩) hop⟩

/-! ## Operations on streams, tables and the cache -/

/-- Operations on streams, their tables, shared tables and the cache. -/
def Op.confined : Op → Bool
  | .configure _ _ => true
  | .removeStream _ => true
  | .enable _ => true
  | .disable _ => true
  | .setFaultMode _ => true
  | .attachTable _ _ => true
  | .attachLog _ _ => true
  | .createPasid _ _ => true
  | .removePasid _ _ => true
  | .clearPasids _ => true
  | .map _ _ _ => true
  | .unmap _ _ _ => true
  | .mapPages _ _ _ => true
  | .unmapPages _ _ _ => true
  | .editTable _ _ => true
  | .invalidateAll => true
  | .invalidateStream _ => true
  | .invalidatePasid _ _ => true
  | _ => false

/-- Nothing is touched but the streams, the cache, the shared tables, and the stalls with the count of
    those terminated. -/
def Confined (c c' : Controller) : Prop :=
  c' = { c with
    streams := c'.streams
    tlb := c'.tlb
    resources := c'.resources
    stalls := c'.stalls
    counters := { c.counters with stallsTerminated := c'.counters.stallsTerminated } }

/-- An operation that is confined leaves queues, log, clock and sinks alone. -/
theorem confined_step {c : Controller} {op : Op} (h : op.confined = true) :
    Confined c (c.step op).1 := by
  have hsettle : ∀ r : Except Error Controller, (∀ c', r = .ok c' → Confined c c') →
      Confined c (c.settle r).1 := fun _ h => settle_preserves rfl h
  have hflag : ∀ r : Except Error (Controller × Bool), (∀ c' b, r = .ok (c', b) → Confined c c') →
      Confined c (c.settleFlag r).1 := fun _ h => settleFlag_preserves rfl h
  cases op with
  | configure id config =>
    refine hsettle _ fun c' hc => ?_
    obtain ⟨s, -, -, rfl⟩ | ⟨-, -, s, -, rfl⟩ := configure_eq_ok hc <;> rfl
  | removeStream id =>
    refine hsettle _ fun c' hc => ?_
    obtain ⟨s, -, rfl⟩ := removeStream_eq_ok hc
    rfl
  | enable id =>
    refine hsettle _ fun c' hc => ?_
    obtain ⟨s, -, rfl⟩ := enable_eq_ok hc
    rfl
  | disable id =>
    refine hsettle _ fun c' hc => ?_
    obtain ⟨s, -, rfl⟩ := disable_eq_ok hc
    rfl
  | setFaultMode mode => rfl
  | attachTable id table =>
    refine hsettle _ fun c' hc => ?_
    obtain ⟨s, -, rfl⟩ := attachTable_eq_ok hc
    rfl
  | attachLog id log =>
    refine hsettle _ fun c' hc => ?_
    obtain ⟨s, -, rfl⟩ := attachLog_eq_ok hc
    rfl
  | createPasid id pasid =>
    refine hsettle _ fun c' hc => ?_
    obtain ⟨s, s', -, -, rfl⟩ := createPasid_eq_ok hc
    rfl
  | removePasid id pasid =>
    refine hsettle _ fun c' hc => ?_
    obtain ⟨s, -, rfl⟩ := removePasid_eq_ok hc
    rfl
  | clearPasids id =>
    refine hsettle _ fun c' hc => ?_
    obtain ⟨s, -, rfl⟩ := clearPasids_eq_ok hc
    rfl
  | map id pasid m =>
    refine hsettle _ fun c' hc => ?_
    obtain ⟨s, t, -, -, -, rfl⟩ := map_eq_ok hc
    rfl
  | unmap id pasid a =>
    refine hflag _ fun c' b hc => ?_
    obtain ⟨s, t, -, -, rfl⟩ := unmap_eq_ok hc
    rfl
  | mapPages id pasid ms =>
    refine hsettle _ fun c' hc => ?_
    obtain ⟨s, t, -, -, -, rfl⟩ := mapPages_eq_ok hc
    rfl
  | unmapPages id pasid as =>
    refine hsettle _ fun c' hc => ?_
    obtain ⟨s, t, -, -, rfl⟩ := unmapPages_eq_ok hc
    rfl
  | editTable id change =>
    refine hflag _ fun c' b hc => ?_
    obtain rfl := editTable_eq_ok hc
    rfl
  | invalidateAll => rfl
  | invalidateStream id => rfl
  | invalidatePasid id pasid => rfl
  | _ => cases h

/-! ## Commands in front -/

/-- The command in front has left the queue.  Nothing else is touched but the cache, the events, the
    stalls and the counters of commands, of events dropped and of stalls resumed. -/
def Ran (c c' : Controller) : Prop :=
  c' = { c with
    tlb := c'.tlb
    events := c'.events
    commands := c.commands.popFront
    stalls := c'.stalls
    counters := { c.counters with
      eventsDropped := c'.counters.eventsDropped
      commandsProcessed := c.counters.commandsProcessed + 1
      commandsFailed := c'.counters.commandsFailed
      syncCompletions := c'.counters.syncCompletions
      pageResponses := c'.counters.pageResponses
      stallsResumed := c'.counters.stallsResumed } }

/-- What a command does to its stream is within what a turn may change. -/
theorem ran_executeOn (c : Controller) (s : Stream) (cmd : Command) :
    Ran c (c.executeOn s cmd).consume := by
  unfold executeOn
  cases cmd.kind with
  | atcInv =>
    dsimp only
    rw [emit_eq]
    rfl
  | prefetchAddr =>
    dsimp only
    rw [prefetch_eq]
    rfl
  | _ => rfl

/-- So is what the command in front does, whatever it is. -/
theorem ran_runFront {c c' : Controller} {cmd : Command} {report report' : CommandReport}
    (h : c.runFront cmd report = some (c', report')) : Ran c c' := by
  obtain ⟨-, -, rfl⟩ | ⟨-, done, hd, rfl⟩ | ⟨-, e, -, rfl⟩ := runFront_eq_some h
  · rfl
  · obtain ⟨s, -, rfl⟩ | ⟨-, -, rfl⟩ | ⟨-, -, rfl⟩ := execute_eq_ok hd
    · exact ran_executeOn c s cmd
    · rfl
    · rfl
  · rw [failCommand, emit_eq]
    rfl

/-- Commands have left the queue, and touched nothing else but what each may touch. -/
def Processed (c c' : Controller) : Prop :=
  c' = { c with
    tlb := c'.tlb
    events := c'.events
    commands := c'.commands
    stalls := c'.stalls
    counters := { c.counters with
      eventsDropped := c'.counters.eventsDropped
      commandsProcessed := c'.counters.commandsProcessed
      commandsFailed := c'.counters.commandsFailed
      syncCompletions := c'.counters.syncCompletions
      pageResponses := c'.counters.pageResponses
      stallsResumed := c'.counters.stallsResumed } }

/-- One more turn, and the batch has still changed no more than batches do. -/
theorem Ran.processed {c d d' : Controller} (h : Ran d d') (hd : Processed c d) :
    Processed c d' := by
  rw [h, hd]
  rfl

/-- The completion of a SYNC that has to wait goes to the event queue too. -/
theorem processed_processCommands (c : Controller) : Processed c c.processCommands.1 := by
  refine processCommands_preserves (P := Processed c) ?_ ?_ rfl
  · intro d d' _ _ _ _ _ hf hd
    exact (ran_runFront hf).processed hd
  · intro d hd
    rw [hd]
    rfl

/-! ## Calls to translate -/

/-- The ways a call can go: no stream, an answer of the cache, an answer of the tables, a fault, or a
    fault that waits. -/
theorem translate_cases {P : Controller × Except Error Translation → Prop} {c : Controller}
    {t : Transaction}
    (unknown : c.streams[t.stream]? = none →
      P ((c.reportFault t (.unstaged (.streamNotConfigured t.stream))).countTranslation false,
        .error (.streamNotConfigured t.stream)))
    (hit : ∀ s e, c.streams[t.stream]? = some s → (c.lookupCache t).2 = some e →
      P (((c.lookupCache t).1.setStream (s.countTranslation true)).countTranslation true,
        .ok (e.toTranslation t.address)))
    (answered : ∀ s r epoch, c.streams[t.stream]? = some s → s.walk c.resources t = .ok r →
      P ((((c.lookupCache t).1.setStream (s.countTranslation true)).remember t r
        epoch).countTranslation true, .ok r))
    (ended : ∀ s f, c.streams[t.stream]? = some s → s.walk c.resources t = .error f →
      ¬(f.error.retryable = true ∧ s.config.faultMode = .stall) →
      P ((((c.lookupCache t).1.missed s t f).reportFault t f).countTranslation false,
        .error f.error))
    (waiting : ∀ s f, c.streams[t.stream]? = some s → s.walk c.resources t = .error f →
      f.error.retryable = true → s.config.faultMode = .stall →
      P (((((c.lookupCache t).1.missed s t f).reportFault t f).stall t).countTranslation false,
        .error f.error)) :
    P (c.translate t) := by
  rw [translate_eq]
  refine attempt_cases (P := fun x => P (x.1.countTranslation x.2.isOk, x.2)) unknown
    (fun s e hs he _ => hit s e hs he) fun s hs _ => ?_
  rw [← resources_lookupCache c t] at answered ended waiting
  refine walkStream_cases (P := fun x => P (x.1.countTranslation x.2.isOk, x.2)) ?_ ?_ ?_
  · exact fun r hr => answered s r _ hs hr
  · exact fun f hf hstay => ended s f hs hf hstay
  · exact fun f hf hr hm => waiting s f hs hf hr hm

/-- Nothing is touched but the streams, the cache, the shared logs, the events, the page requests, the
    stalls, the fault log and the counters of translations, faults, events dropped and requests. -/
def Called (c c' : Controller) : Prop :=
  c' = { c with
    streams := c'.streams
    tlb := c'.tlb
    resources := c'.resources
    events := c'.events
    pageRequests := c'.pageRequests
    stalls := c'.stalls
    faultLog := c'.faultLog
    counters := { c.counters with
      translations := c'.counters.translations
      successes := c'.counters.successes
      failures := c'.counters.failures
      faults := c'.counters.faults
      faultsDiscarded := c'.counters.faultsDiscarded
      eventsDropped := c'.counters.eventsDropped
      pageRequests := c'.counters.pageRequests
      pageOverflows := c'.counters.pageOverflows } }

namespace Called

variable {c c' : Controller}

theorem refl (c : Controller) : Called c c := rfl

theorem reportFault (h : Called c c') (t : Transaction) (f : StageFault) :
    Called c (c'.reportFault t f) := by
  rw [h, Controller.reportFault]
  dsimp only
  rw [emit_eq]
  rfl

theorem stall (h : Called c c') (t : Transaction) : Called c (c'.stall t) := by
  rw [h, Controller.stall]
  dsimp only
  split
  · rfl
  · rw [emit_eq]
    rfl

theorem countTranslation (h : Called c c') (b : Bool) : Called c (c'.countTranslation b) := by
  rw [h]
  cases b <;> rfl

theorem lookupCache (c : Controller) (t : Transaction) : Called c (c.lookupCache t).1 := by
  rw [lookupCache_eq]
  rfl

end Called

/-- A call to translate changes no more than calls do: nothing that operations on streams and
    configurations are there for. -/
theorem called_translate (c : Controller) (t : Transaction) : Called c (c.translate t).1 := by
  have hlooked := Called.lookupCache c t
  refine translate_cases (P := fun x => Called c x.1) ?_ ?_ ?_ ?_ ?_
  · intro _
    exact ((Called.refl c).reportFault t _).countTranslation false
  · intro s e _ _
    refine Called.countTranslation ?_ true
    rw [hlooked]
    rfl
  · intro s r epoch _ _
    refine Called.countTranslation ?_ true
    rw [remember_eq, hlooked]
    rfl
  · intro s f _ _ _
    refine (Called.reportFault ?_ t f).countTranslation false
    rw [hlooked]
    rfl
  · intro s f _ _ _ _
    refine ((Called.reportFault ?_ t f).stall t).countTranslation false
    rw [hlooked]
    rfl

end Iommu.Controller
