/-
  Every bounded part of the state has the size that the configuration gives it.

  Five parts are bounded: the three queues, the fault log and the cache.  Operations fill and empty
  them within their capacities (`queued_step` for the first four, the account of cache operations for
  the last), and only a new configuration moves the capacities, all of them together (`Sized.adopt`).
  So the sizes of the configuration in force are the capacities in force, in every state of every run
  (`sized_run`).
-/
import Iommu.Proofs.Cache.Changes
import Iommu.Proofs.Fault.Log
import Iommu.Proofs.Queue.Bounded

namespace Iommu.Controller

/-- The queues and the fault log have the given sizes as capacities, and fit. -/
structure Queued (sizes : Configuration.Queues) (c : Controller) : Prop where
  events : c.events.Holds sizes.events.toNat
  commands : c.commands.Holds sizes.commands.toNat
  pageRequests : c.pageRequests.Holds sizes.pageRequests.toNat
  faultLog : c.faultLog.Holds sizes.faultLog.toNat

/-- Every bounded part has the capacity that the configuration gives it, and fits. -/
structure Sized (c : Controller) : Prop where
  queued : c.Queued c.config.queues
  cached : c.tlb.Holds c.config.cache.size.toNat

/-! ## Queues and the fault log -/

namespace Queued

variable {sizes : Configuration.Queues} {c c' : Controller}

/-- Only the three queues and the fault log matter. -/
theorem congr (h : c.Queued sizes) (he : c'.events = c.events) (hc : c'.commands = c.commands)
    (hp : c'.pageRequests = c.pageRequests) (hf : c'.faultLog = c.faultLog) : c'.Queued sizes :=
  ⟨he ▸ h.events, hc ▸ h.commands, hp ▸ h.pageRequests, hf ▸ h.faultLog⟩

/-- Confined changes leave all four alone. -/
theorem confined (h : c.Queued sizes) (hc : Confined c c') : c'.Queued sizes := by
  rw [hc]
  exact h.congr rfl rfl rfl rfl

/-- An event is taken or refused, and the queue fits either way. -/
theorem emit (h : c.Queued sizes) (e : Event) : (c.emit e).Queued sizes := by
  rw [emit_eq]
  exact ⟨h.events.push _, h.commands, h.pageRequests, h.faultLog⟩

/-- A record that does not fit discards the oldest. -/
theorem reportFault (h : c.Queued sizes) (t : Transaction) (f : StageFault) :
    (c.reportFault t f).Queued sizes := by
  unfold Controller.reportFault
  dsimp only
  refine emit ?_ _
  exact ⟨h.events, h.commands, h.pageRequests, h.faultLog.record _⟩

/-- A page request is taken or refused, and so is the event about it. -/
theorem stall (h : c.Queued sizes) (t : Transaction) : (c.stall t).Queued sizes := by
  unfold Controller.stall
  dsimp only
  split
  · exact ⟨h.events, h.commands, h.pageRequests.push _, h.faultLog⟩
  · refine emit ?_ _
    exact ⟨h.events, h.commands, h.pageRequests.push _, h.faultLog⟩

/-- The cache is none of the four. -/
theorem lookupCache (h : c.Queued sizes) (t : Transaction) :
    (c.lookupCache t).1.Queued sizes := by
  rw [lookupCache_eq]
  exact h.congr rfl rfl rfl rfl

/-- A call offers at most a record, a request and two events. -/
theorem translate (h : c.Queued sizes) (t : Transaction) : (c.translate t).1.Queued sizes := by
  have hlooked := h.lookupCache t
  refine translate_cases (P := fun x => x.1.Queued sizes) ?_ ?_ ?_ ?_ ?_
  · intro _
    exact (h.reportFault t _).congr rfl rfl rfl rfl
  · intro s e _ _
    exact hlooked.congr rfl rfl rfl rfl
  · intro s r epoch _ _
    rw [remember_eq]
    exact hlooked.congr rfl rfl rfl rfl
  · intro s f _ _ _
    have hmissed : ((c.lookupCache t).1.missed s t f).Queued sizes := hlooked.congr rfl rfl rfl rfl
    exact (hmissed.reportFault t f).congr rfl rfl rfl rfl
  · intro s f _ _ _ _
    have hmissed : ((c.lookupCache t).1.missed s t f).Queued sizes := hlooked.congr rfl rfl rfl rfl
    exact ((hmissed.reportFault t f).stall t).congr rfl rfl rfl rfl

/-- The command in front has left its queue. -/
theorem consume (h : c.Queued sizes) : c.consume.Queued sizes :=
  ⟨h.events, h.commands.popFront, h.pageRequests, h.faultLog⟩

/-- A completion is taken or refused. -/
theorem offerCompletion (h : c.Queued sizes) : c.offerCompletion.Queued sizes :=
  ⟨h.events.push _, h.commands, h.pageRequests, h.faultLog⟩

/-- On its stream a command may emit an event, and no more. -/
theorem executeOn (h : c.Queued sizes) (s : Stream) (cmd : Command) :
    (c.executeOn s cmd).Queued sizes := by
  unfold Controller.executeOn
  cases cmd.kind with
  | atcInv => exact (h.congr rfl rfl rfl rfl : (c.invalidateRange _ _ _).1.Queued sizes).emit _
  | prefetchAddr =>
    dsimp only
    rw [prefetch_eq]
    exact h.congr rfl rfl rfl rfl
  | _ => exact h.congr rfl rfl rfl rfl

/-- A command leaves its queue and reports by an event. -/
theorem runFront (h : c.Queued sizes) {cmd : Command} {report report' : CommandReport}
    (hf : c.runFront cmd report = some (c', report')) : c'.Queued sizes := by
  obtain ⟨-, -, rfl⟩ | ⟨-, done, hd, rfl⟩ | ⟨-, e, -, rfl⟩ := runFront_eq_some hf
  · exact consume (h.offerCompletion.congr rfl rfl rfl rfl)
  · obtain ⟨s, -, rfl⟩ | ⟨-, -, rfl⟩ | ⟨-, -, rfl⟩ := execute_eq_ok hd
    · exact (h.executeOn s cmd).consume
    · exact h.consume
    · exact consume (h.congr rfl rfl rfl rfl)
  · refine consume (emit ?_ _)
    exact h.congr rfl rfl rfl rfl

/-- A request is taken or refused. -/
theorem submitPageRequest (h : c.Queued sizes) (r : PageRequest) :
    (c.submitPageRequest r).1.Queued sizes := by
  rw [submitPageRequest_eq]
  exact ⟨h.events, h.commands, h.pageRequests.push _, h.faultLog⟩

/-- An empty queue fits. -/
theorem clearPageRequests (h : c.Queued sizes) : c.clearPageRequests.1.Queued sizes := by
  rw [clearPageRequests_eq]
  exact ⟨h.events, h.commands, h.pageRequests.clear, h.faultLog⟩

end Queued

/-- Every operation but a new configuration stays within the capacities. -/
theorem queued_step {sizes : Configuration.Queues} {c : Controller} (h : c.Queued sizes) {op : Op}
    (hop : ∀ new found, op ≠ .updateConfiguration new found) : (c.step op).1.Queued sizes := by
  cases op with
  | translate t => exact h.translate t
  | submitCommand cmd => exact ⟨h.events, h.commands.push _, h.pageRequests, h.faultLog⟩
  | processCommands =>
    exact processCommands_preserves (P := fun d => d.Queued sizes)
      (fun _ _ _ _ _ _ _ hf hd => hd.runFront hf) (fun _ hd => hd.offerCompletion) h
  | clearCommands => exact ⟨h.events, h.commands.clear, h.pageRequests, h.faultLog⟩
  | submitPageRequest r => exact h.submitPageRequest r
  | processPageRequests =>
    exact ⟨h.events, h.commands.offered c.response _, h.pageRequests.left _ _, h.faultLog⟩
  | clearPageRequests => exact h.clearPageRequests
  | processEvents => exact ⟨h.events.clear, h.commands, h.pageRequests, h.faultLog⟩
  | clearEvents => exact ⟨h.events.clear, h.commands, h.pageRequests, h.faultLog⟩
  | addSink s => exact h.congr rfl rfl rfl rfl
  | enableCaching enabled => cases enabled <;> exact h.congr rfl rfl rfl rfl
  | updateConfiguration new found => exact absurd rfl (hop new found)
  | resetStatistics =>
    exact ⟨h.events.resetCounters, h.commands.resetCounters, h.pageRequests.resetCounters,
      h.faultLog⟩
  | reset =>
    exact ⟨h.events.clear.resetCounters, h.commands.clear.resetCounters,
      h.pageRequests.clear.resetCounters, h.faultLog.clear⟩
  | elapse ns => exact h.congr rfl rfl rfl rfl
  | _ => exact h.confined (confined_step rfl)

/-! ## Capacities -/

/-- The cache of a new configuration has its size and fits. -/
theorem holds_reshapeTlb (t : Tlb) (old : Configuration) {new : Configuration} (h : new.Valid) :
    (reshapeTlb t old new).Holds new.cache.size.toNat := by
  have hsized := (Tlb.holds_resize t h.cacheSize.1).setMaxAgeMs new.cache.maxAgeMs
  unfold reshapeTlb
  dsimp only
  split
  · exact hsized.step .invalidateAll rfl
  · exact hsized

/-- A new configuration moves all capacities at once. -/
theorem sized_adopt {c c' : Controller} {new : Configuration} {found : StreamId}
    (h : c.updateConfiguration new found = .ok c') : c'.Sized := by
  obtain ⟨hv, events, commands, pageRequests, he, hc, hp, rfl⟩ := updateConfiguration_eq_ok h
  refine ⟨⟨?_, ?_, ?_, ?_⟩, ?_⟩
  · exact Queue.holds_resizeTo he
  · exact Queue.holds_resizeTo hc
  · exact Queue.holds_resizeTo hp
  · exact FaultLog.holds_setCapacity _ hv.faultLog.1
  · exact holds_reshapeTlb c.tlb c.config hv

/-- A new controller is made with these sizes, and empty. -/
theorem sized_start {config : Configuration} (h : config.Valid) (sinks : List Sink)
    (deliveries : List Delivery) (resources : Resources) (clock : Nat) :
    (start config sinks deliveries resources clock).Sized := by
  refine ⟨⟨?_, ?_, ?_, ?_⟩, ?_⟩
  · exact Queue.holds_ofCapacity _
  · exact Queue.holds_ofCapacity _
  · exact Queue.holds_ofCapacity _
  · exact FaultLog.holds_ofCapacity h.faultLog.1
  · exact (Tlb.holds_ofCapacity h.cacheSize.1).setMaxAgeMs _

/-- Every operation, successful or not, keeps the capacities those of the configuration. -/
theorem Sized.step {c : Controller} (h : c.Sized) (op : Op) : (c.step op).1.Sized := by
  by_cases hupdate : ∃ new found, op = .updateConfiguration new found
  · obtain ⟨new, found, rfl⟩ := hupdate
    exact settle_preserves h fun c' hc => sized_adopt hc
  · have hop : ∀ new found, op ≠ .updateConfiguration new found := fun new found he =>
      hupdate ⟨new, found, he⟩
    obtain ⟨enabled, hconfig⟩ := config_step_eq (c := c) hop
    refine ⟨?_, ?_⟩
    · rw [hconfig]
      exact queued_step h.queued hop
    · rw [hconfig]
      exact h.cached.changed (tlb_step c op) fun _ => resizes_of_performs hop

/-- Hence every run keeps them. -/
theorem Sized.run {c : Controller} (h : c.Sized) (ops : List Op) : (c.run ops).1.Sized :=
  run_preserves (fun _ op hc => hc.step op) h ops

/-- In every reachable state the capacities are those of the configuration in force. -/
theorem sized_run {config : Configuration} {c : Controller} (h : create config = .ok c)
    (ops : List Op) : (c.run ops).1.Sized := by
  obtain ⟨hv, rfl⟩ := create_eq_ok h
  exact (sized_start hv ..).run ops

end Iommu.Controller
