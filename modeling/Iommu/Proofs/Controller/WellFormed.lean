/-
  The shape every reachable state has.

  A well-formed controller has a valid configuration, keeps each stream under its own identifier with
  the limits of the configuration in force, and an index that lists what is cached.  A new controller is
  well formed and every operation keeps it so (`WellFormed.step`), whether it succeeds or fails; hence
  the state after every run is (`WellFormed.run`, `wellFormed_of_create`).
-/
import Iommu.Proofs.Controller.Core
import Iommu.Proofs.Tlb.Residence

namespace Iommu.Controller

/-- The configuration is valid, every stream is kept under its own identifier with the limits of the
    configuration, and the index of the cache lists what is cached. -/
structure WellFormed (c : Controller) : Prop where
  config : c.config.Valid
  keyed : ∀ (id : StreamId) (s : Stream), c.streams[id]? = some s → s.id = id
  limits : ∀ (id : StreamId) (s : Stream), c.streams[id]? = some s → s.limits = limitsOf c.config
  indexed : c.tlb.Indexed

/-- A new controller has no streams and an empty cache. -/
theorem wellFormed_start {config : Configuration} (h : config.Valid) (sinks : List Sink)
    (deliveries : List Delivery) (resources : Resources) (clock : Nat) :
    (start config sinks deliveries resources clock).WellFormed := by
  refine ⟨h, ?_, ?_, (Tlb.indexed_ofCapacity _).setMaxAgeMs _⟩
  · intro id s hs
    simp [start] at hs
  · intro id s hs
    simp [start] at hs

namespace WellFormed

variable {c c' : Controller}

/-- Being well formed is a property of the core. -/
theorem congr (h : c.WellFormed) (hcore : c'.core = c.core) : c'.WellFormed := by
  have hconfig : c'.config = c.config := congrArg Core.config hcore
  have hstreams : c'.streams = c.streams := congrArg Core.streams hcore
  have htlb : c'.tlb = c.tlb := congrArg Core.tlb hcore
  refine ⟨hconfig ▸ h.config, ?_, ?_, htlb ▸ h.indexed⟩
  · rw [hstreams]
    exact h.keyed
  · rw [hstreams, hconfig]
    exact h.limits

/-! ## Parts of the state -/

/-- The cache may be exchanged for any that is indexed. -/
theorem withTlb (h : c.WellFormed) {tlb : Tlb} (ht : tlb.Indexed) :
    ({ c with tlb } : Controller).WellFormed :=
  ⟨h.config, h.keyed, h.limits, ht⟩

/-- Shared tables and logs have no part in it. -/
theorem withResources (h : c.WellFormed) (resources : Resources) :
    ({ c with resources } : Controller).WellFormed :=
  ⟨h.config, h.keyed, h.limits, h.indexed⟩

/-- A stream that is written stands under its own number. -/
theorem setStream (h : c.WellFormed) {s : Stream} (hl : s.limits = limitsOf c.config) :
    (c.setStream s).WellFormed := by
  refine ⟨h.config, ?_, ?_, h.indexed⟩
  · intro id s' hs
    rw [getElem?_setStream] at hs
    split at hs
    · rename_i hid
      obtain rfl := Option.some.inj hs
      exact hid
    · exact h.keyed id s' hs
  · intro id s' hs
    rw [getElem?_setStream] at hs
    split at hs
    · obtain rfl := Option.some.inj hs
      exact hl
    · exact h.limits id s' hs

/-- A stream replaced by one with the same limits. -/
theorem replace (h : c.WellFormed) {id : StreamId} {s : Stream} (hs : c.streams[id]? = some s)
    (s' : Stream) (hl : s'.limits = s.limits) : (c.setStream s').WellFormed :=
  h.setStream (hl.trans (h.limits id s hs))

/-- Taking a stream out leaves the others where they are. -/
theorem eraseStream (h : c.WellFormed) (id : StreamId) :
    ({ c with streams := c.streams.erase id } : Controller).WellFormed := by
  have hsub : ∀ (id' : StreamId) (s : Stream),
      (c.streams.erase id)[id']? = some s → c.streams[id']? = some s := by
    intro id' s hs
    rw [Std.ExtTreeMap.getElem?_erase] at hs
    split at hs
    · cases hs
    · exact hs
  exact ⟨h.config, fun id' s hs => h.keyed id' s (hsub id' s hs),
    fun id' s hs => h.limits id' s (hsub id' s hs), h.indexed⟩

/-- All streams may be changed, but for their numbers and limits. -/
theorem mapStreams (h : c.WellFormed) {f : Stream → Stream} (hid : ∀ s, (f s).id = s.id)
    (hl : ∀ s, (f s).limits = s.limits) : (c.mapStreams f).WellFormed := by
  refine ⟨h.config, ?_, ?_, h.indexed⟩
  · intro id s' hs
    rw [getElem?_mapStreams, Option.map_eq_some_iff] at hs
    obtain ⟨s, hs, rfl⟩ := hs
    exact (hid s).trans (h.keyed id s hs)
  · intro id s' hs
    rw [getElem?_mapStreams, Option.map_eq_some_iff] at hs
    obtain ⟨s, hs, rfl⟩ := hs
    exact (hl s).trans (h.limits id s hs)

/-- Emptying the cache empties the index. -/
theorem invalidateAll (h : c.WellFormed) : c.invalidateAll.1.WellFormed :=
  h.withTlb h.indexed.invalidateAll

theorem invalidateStream (h : c.WellFormed) (id : StreamId) :
    (c.invalidateStream id).1.WellFormed :=
  h.withTlb (h.indexed.invalidateStream id)

theorem invalidatePasid (h : c.WellFormed) (id : StreamId) (pasid : Pasid) :
    (c.invalidatePasid id pasid).1.WellFormed :=
  h.withTlb (h.indexed.invalidatePasid id pasid)

theorem invalidateRange (h : c.WellFormed) (id : StreamId) (pasid : Pasid) (range : PageRange) :
    (c.invalidateRange id pasid range).1.WellFormed :=
  h.withTlb (h.indexed.invalidateRange id pasid range)

/-! ## Translation -/

/-- A lookup is an operation of the cache, which keeps its index. -/
theorem lookupCache (h : c.WellFormed) (t : Transaction) : (c.lookupCache t).1.WellFormed := by
  unfold Controller.lookupCache
  split
  · exact h.withTlb (h.indexed.lookup ..)
  · exact h

/-- So is an insertion. -/
theorem remember (h : c.WellFormed) (t : Transaction) (r : Translation) (epoch : Nat) :
    (c.remember t r epoch).WellFormed := by
  unfold Controller.remember
  split
  · exact h.withTlb (h.indexed.insertIfCurrent ..)
  · exact h

/-- A missed translation counts on its stream and adds to a log. -/
theorem missed (h : c.WellFormed) {s : Stream} {id : StreamId} (hs : c.streams[id]? = some s)
    (t : Transaction) (f : StageFault) : (c.missed s t f).WellFormed :=
  (h.replace hs ((s.countTranslation false).recordFault c.resources c.clock t f).1
    rfl).withResources _

/-- Whatever becomes of a walk, its stream is replaced by one with the same limits. -/
theorem walkStream (h : c.WellFormed) {s : Stream} {id : StreamId} (hs : c.streams[id]? = some s)
    (t : Transaction) : (c.walkStream s t).1.WellFormed := by
  refine walkStream_cases (P := fun x => x.1.WellFormed) ?_ ?_ ?_
  · intro r _
    exact (h.replace hs (s.countTranslation true) rfl).remember ..
  · intro f _ _
    exact (h.missed hs t f).congr (core_reportFault ..)
  · intro f _ _ _
    exact ((h.missed hs t f).congr (core_reportFault ..)).congr (core_stall ..)

/-- The ways a translation can take, each through its lemma. -/
theorem translate (h : c.WellFormed) (t : Transaction) : (c.translate t).1.WellFormed := by
  have hattempt : (c.attempt t).1.WellFormed := by
    refine attempt_cases (P := fun x => x.1.WellFormed) ?_ ?_ ?_
    · intro _
      exact h.congr (core_reportFault ..)
    · intro s e hs _ _
      rw [← streams_lookupCache c t] at hs
      exact (h.lookupCache t).replace hs (s.countTranslation true) rfl
    · intro s hs _
      rw [← streams_lookupCache c t] at hs
      exact (h.lookupCache t).walkStream hs t
  rw [translate_eq]
  exact hattempt.congr (core_countTranslation ..)

/-! ## Commands -/

/-- A prefetch stores what it finds. -/
theorem prefetch (h : c.WellFormed) (s : Stream) (cmd : Command) :
    (c.prefetch s cmd).WellFormed := by
  unfold Controller.prefetch
  split
  · dsimp only
    split
    · exact h.remember ..
    · exact h
  · exact h

/-- A command drops from the cache, fetches into it, or leaves it. -/
theorem executeOn (h : c.WellFormed) (s : Stream) (cmd : Command) :
    (c.executeOn s cmd).WellFormed := by
  unfold Controller.executeOn
  cases cmd.kind with
  | tlbiS12Vmall => exact h.invalidateStream cmd.stream
  | cfgiSte => exact h.invalidateStream cmd.stream
  | tlbiNhAsid => exact h.invalidatePasid cmd.stream cmd.pasid
  | tlbiNhVa => exact h.invalidateRange cmd.stream cmd.pasid cmd.range
  | atcInv => exact (h.invalidateRange cmd.stream cmd.pasid cmd.range).congr (core_emit ..)
  | prefetchAddr => exact h.prefetch s cmd
  | _ => exact h.congr rfl

/-- The command in front, however it ends. -/
theorem runFront (h : c.WellFormed) {cmd : Command} {report report' : CommandReport}
    (hf : c.runFront cmd report = some (c', report')) : c'.WellFormed := by
  obtain ⟨-, -, rfl⟩ | ⟨-, done, hd, rfl⟩ | ⟨-, e, -, rfl⟩ := runFront_eq_some hf
  · exact h.congr rfl
  · refine WellFormed.congr ?_ (core_consume done)
    obtain ⟨s, -, rfl⟩ | ⟨-, -, rfl⟩ | ⟨-, -, rfl⟩ := execute_eq_ok hd
    · exact h.executeOn s cmd
    · exact h
    · exact h.invalidateAll
  · exact h.congr ((core_consume _).trans (core_failCommand ..))

/-- A batch is a sequence of such turns. -/
theorem processCommands (h : c.WellFormed) : c.processCommands.1.WellFormed :=
  processCommands_preserves (fun _ _ _ _ _ _ _ hf h => h.runFront hf)
    (fun _ h => h.congr (core_offerCompletion _)) h

/-! ## Configurations -/

/-- Under a new configuration every stream has the new limits. -/
theorem adopt (h : c.WellFormed) {new : Configuration} (hv : new.Valid) (events : Queue Event)
    (commands : Queue Command) (pageRequests : Queue PageRequest) :
    (c.adopt new events commands pageRequests).WellFormed := by
  have hstreams : ∀ (id : StreamId) (s : Stream),
      (c.adopt new events commands pageRequests).streams[id]? = some s →
        ∃ s₀, c.streams[id]? = some s₀ ∧ s = s₀.setLimits (limitsOf new) := by
    intro id s hs
    rw [show (c.adopt new events commands pageRequests).streams =
      (c.mapStreams fun s => s.setLimits (limitsOf new)).streams from rfl,
      getElem?_mapStreams, Option.map_eq_some_iff] at hs
    obtain ⟨s₀, hs₀, rfl⟩ := hs
    exact ⟨s₀, hs₀, rfl⟩
  refine ⟨hv, ?_, ?_, ?_⟩
  · intro id s hs
    obtain ⟨s₀, hs₀, rfl⟩ := hstreams id s hs
    exact h.keyed id s₀ hs₀
  · intro id s hs
    obtain ⟨s₀, -, rfl⟩ := hstreams id s hs
    rfl
  · show (reshapeTlb c.tlb c.config new).Indexed
    unfold reshapeTlb
    dsimp only
    split
    · exact ((h.indexed.resize _).setMaxAgeMs _).invalidateAll
    · exact (h.indexed.resize _).setMaxAgeMs _

/-- Turning caching off empties the cache; the switch itself is no part of the bounds. -/
theorem enableCaching (h : c.WellFormed) (enabled : Bool) :
    (c.enableCaching enabled).WellFormed := by
  -- the switch of the cache is no setting that validity asks about
  have hset : ({ c with config := { c.config with cache := { c.config.cache with enabled } } } :
      Controller).WellFormed := by
    have hv := Configuration.problem?_eq_none.2 h.config
    exact ⟨Configuration.problem?_eq_none.1 hv, h.keyed, h.limits, h.indexed⟩
  unfold Controller.enableCaching
  dsimp only
  split
  · exact hset
  · exact hset.invalidateAll

/-- Counters have no part in it. -/
theorem resetStatistics (h : c.WellFormed) : c.resetStatistics.WellFormed := by
  have hmap : (c.mapStreams Stream.resetStatistics).WellFormed :=
    h.mapStreams (fun _ => rfl) (fun _ => rfl)
  exact ⟨hmap.config, hmap.keyed, hmap.limits, h.indexed.resetStatistics⟩

/-- After a reset there are no streams and nothing is cached. -/
theorem reset (h : c.WellFormed) : c.reset.WellFormed := by
  unfold Controller.reset
  refine resetStatistics ⟨h.config, ?_, ?_, h.indexed.invalidateAll⟩
  · intro id s hs
    simp at hs
  · intro id s hs
    simp at hs

/-! ## Steps and runs -/

/-- Every operation, successful or not, leaves a well-formed controller well formed. -/
theorem step (h : c.WellFormed) (op : Op) : (c.step op).1.WellFormed := by
  cases op with
  | configure id config =>
    refine settle_preserves h fun c' hc => ?_
    obtain ⟨s, hs, -, rfl⟩ | ⟨-, -, s, hs, rfl⟩ := configure_eq_ok hc
    · exact (h.replace hs { s with config } rfl).invalidateStream id
    · exact h.setStream (Stream.create_eq_ok hs).2.2.1
  | removeStream id =>
    refine settle_preserves h fun c' hc => ?_
    obtain ⟨s, -, rfl⟩ := removeStream_eq_ok hc
    exact ((h.eraseStream id).invalidateStream id).congr (core_terminateStream ..)
  | enable id =>
    refine settle_preserves h fun c' hc => ?_
    obtain ⟨s, hs, rfl⟩ := enable_eq_ok hc
    exact h.replace hs (s.setEnabled true) rfl
  | disable id =>
    refine settle_preserves h fun c' hc => ?_
    obtain ⟨s, hs, rfl⟩ := disable_eq_ok hc
    exact (h.replace hs (s.setEnabled false) rfl).invalidateStream id
  | setFaultMode mode => exact h.mapStreams (fun _ => rfl) (fun _ => rfl)
  | attachTable id table =>
    refine settle_preserves h fun c' hc => ?_
    obtain ⟨s, hs, rfl⟩ := attachTable_eq_ok hc
    exact (h.replace hs (s.attachTable table) rfl).invalidateStream id
  | attachLog id log =>
    refine settle_preserves h fun c' hc => ?_
    obtain ⟨s, hs, rfl⟩ := attachLog_eq_ok hc
    exact h.replace hs (s.attachLog log) rfl
  | createPasid id pasid =>
    refine settle_preserves h fun c' hc => ?_
    obtain ⟨s, s', hs, hp, rfl⟩ := createPasid_eq_ok hc
    refine h.replace hs s' ?_
    obtain ⟨-, rfl | ⟨-, -, rfl⟩⟩ := Stream.createPasid_eq_ok hp <;> rfl
  | removePasid id pasid =>
    refine settle_preserves h fun c' hc => ?_
    obtain ⟨s, hs, rfl⟩ := removePasid_eq_ok hc
    have hset := h.replace hs { s with pasids := s.pasids.erase pasid } rfl
    exact (hset.invalidatePasid id pasid).congr (core_terminatePasid ..)
  | clearPasids id =>
    refine settle_preserves h fun c' hc => ?_
    obtain ⟨s, hs, rfl⟩ := clearPasids_eq_ok hc
    have hset := h.replace hs s.clearPasids rfl
    exact (hset.invalidateStream id).congr (core_terminateStream ..)
  | map id pasid m =>
    refine settle_preserves h fun c' hc => ?_
    obtain ⟨s, t, hs, -, -, rfl⟩ := map_eq_ok hc
    exact (h.replace hs (s.setPasidTable pasid _) rfl).invalidateRange id pasid _
  | unmap id pasid a =>
    refine settleFlag_preserves h fun c' b hc => ?_
    obtain ⟨s, t, hs, -, rfl⟩ := unmap_eq_ok hc
    exact (h.replace hs (s.setPasidTable pasid _) rfl).invalidateRange id pasid _
  | mapPages id pasid ms =>
    refine settle_preserves h fun c' hc => ?_
    obtain ⟨s, t, hs, -, -, rfl⟩ := mapPages_eq_ok hc
    exact (h.replace hs (s.setPasidTable pasid _) rfl).invalidatePasid id pasid
  | unmapPages id pasid as =>
    refine settle_preserves h fun c' hc => ?_
    obtain ⟨s, t, hs, -, rfl⟩ := unmapPages_eq_ok hc
    exact (h.replace hs (s.setPasidTable pasid _) rfl).invalidatePasid id pasid
  | editTable id op =>
    refine settleFlag_preserves h fun c' b hc => ?_
    obtain rfl := editTable_eq_ok hc
    exact h.withResources _
  | translate t => exact h.translate t
  | submitCommand cmd => exact h.congr (core_submitCommand c cmd)
  | processCommands => exact h.processCommands
  | clearCommands => exact h.congr (core_clearCommands c)
  | submitPageRequest r => exact h.congr (core_submitPageRequest c r)
  | processPageRequests => exact h.congr (core_processPageRequests c)
  | clearPageRequests => exact h.congr (core_clearPageRequests c)
  | processEvents => exact h.congr (core_processEvents c)
  | clearEvents => exact h.congr (core_clearEvents c)
  | addSink s => exact h.congr (core_addSink c s)
  | invalidateAll => exact h.invalidateAll
  | invalidateStream id => exact h.invalidateStream id
  | invalidatePasid id pasid => exact h.invalidatePasid id pasid
  | enableCaching enabled => exact h.enableCaching enabled
  | updateConfiguration new found =>
    refine settle_preserves h fun c' hc => ?_
    obtain ⟨hv, events, commands, pageRequests, -, -, -, rfl⟩ := updateConfiguration_eq_ok hc
    exact h.adopt hv events commands pageRequests
  | resetStatistics => exact h.resetStatistics
  | reset => exact h.reset
  | elapse ns => exact h.congr (core_elapse c ns)

/-- A run is a sequence of steps, each of which keeps it so. -/
theorem run (h : c.WellFormed) (ops : List Op) : (c.run ops).1.WellFormed :=
  run_preserves (fun _ op h => h.step op) h ops

end WellFormed

/-- A controller that was made is well formed. -/
theorem wellFormed_of_create {config : Configuration} {c : Controller} (h : create config = .ok c) :
    c.WellFormed := by
  obtain ⟨hv, rfl⟩ := create_eq_ok h
  exact wellFormed_start hv ..

end Iommu.Controller
