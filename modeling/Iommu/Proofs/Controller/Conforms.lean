/-
  The state conforms to the configuration in force.

  `Resident c` says that whatever is cached belongs to a stream that is configured and a PASID that it
  has, and that nothing is cached while caching is off.  Operations that take a stream or a PASID away
  take its entries with it; of the others, only calls to translate and commands add an entry, and what
  they add is the answer of a walk, which needs the PASID.

  With this, the parts of the state that a configuration governs and that are kept in seven places move
  together: `Conforms` puts the four invariants side by side, and every reachable state has them
  (`conforms_run`), whichever operations led there and whichever of them failed.
-/
import Iommu.Proofs.Controller.Populated
import Iommu.Proofs.Controller.Sized
import Iommu.Proofs.Stall.Waiting

namespace Iommu.Controller

/-! ## What is cached -/

/-- What is cached belongs to a PASID of a stream, and nothing is cached while caching is off. -/
structure Resident (c : Controller) : Prop where
  hosted : ∀ e ∈ c.tlb.entries, c.Hosts e.stream e.pasid
  off : c.config.cache.enabled = false → c.tlb.entries = []

namespace Resident

variable {c c' : Controller}

/-- The cache may lose entries, and the others keep their PASIDs. -/
theorem shrink (h : c.Resident) (hc : c'.config.cache.enabled = c.config.cache.enabled)
    (hsub : ∀ e ∈ c'.tlb.entries, e ∈ c.tlb.entries)
    (hhosts : ∀ e ∈ c'.tlb.entries, c.Hosts e.stream e.pasid → c'.Hosts e.stream e.pasid) :
    c'.Resident := by
  refine ⟨fun e he => hhosts e he (h.hosted e (hsub e he)), fun hoff => ?_⟩
  rw [hc] at hoff
  refine List.eq_nil_iff_forall_not_mem.2 fun e he => ?_
  have hin := hsub e he
  rw [h.off hoff] at hin
  cases hin

/-- What is resident and where is decided by the core. -/
theorem congr (h : c.Resident) (hcore : c'.core = c.core) : c'.Resident := by
  have hconfig : c'.config = c.config := congrArg Core.config hcore
  have htlb : c'.tlb = c.tlb := congrArg Core.tlb hcore
  refine h.shrink (by rw [hconfig]) (fun e he => htlb ▸ he) fun e _ hh => ?_
  exact hh.congr (congrArg Core.streams hcore)

/-- An empty cache has nothing out of place. -/
theorem of_empty (h : c.tlb.entries = []) : c.Resident := by
  refine ⟨fun e he => ?_, fun _ => h⟩
  rw [h] at he
  cases he

/-- The answer of a walk is remembered for a PASID that exists. -/
theorem remember (h : c.Resident) {s : Stream} {t : Transaction} {r : Translation}
    (hs : c.streams[t.stream]? = some s) (hr : s.walk c.resources t = .ok r) (epoch : Nat) :
    (c.remember t r epoch).Resident := by
  refine ⟨fun e he => ?_, fun hoff => ?_⟩
  · refine Hosts.congr ?_ (streams_remember ..)
    rcases mem_remember he with hmem | ⟨hb, rfl⟩
    · exact h.hosted e hmem
    · obtain ⟨first, hentry, -⟩ :=
        (Stream.walk_eq_ok_iff (Stream.translationEnabled_of_walk hr hb)).1 hr
      exact ⟨s, hs, Stream.hasPasid_eq_true.2 ⟨first, hentry.present⟩⟩
  · rw [remember_eq] at hoff
    have hoff' : c.config.cache.enabled = false := hoff
    rw [Controller.remember, hoff', Bool.false_and, if_neg Bool.false_ne_true]
    exact h.off hoff'

end Resident

/-- Calls to translate and commands cache for PASIDs that exist, and only while caching is on. -/
theorem kept_resident : Kept Resident where
  congr h hcore := h.congr hcore
  drop _ h hsub := h.shrink rfl hsub fun _ _ hh => hh.congr rfl
  answered hw h hs := h.shrink rfl (fun _ he => he) fun e _ hh =>
    (kept_hosts e.stream e.pasid).answered hw hh hs
  missed hw h hs t f := h.shrink rfl (fun _ he => he) fun e _ hh =>
    (kept_hosts e.stream e.pasid).missed hw hh hs t f
  remembered _ h hs hr epoch := h.remember hs hr epoch

/-- Idle operations leave every stream its PASIDs, and what is cached for them. -/
theorem Resident.idle {c : Controller} (h : c.Resident) (hw : c.WellFormed) {op : Op}
    (hidle : op.idle = true) (hcaching : ∀ b, op ≠ .enableCaching b)
    (hupdate : ∀ new found, op ≠ .updateConfiguration new found) : (c.step op).1.Resident := by
  have hfills : op.fills = false := by
    cases op with
    | translate t => cases hidle
    | processCommands => cases hidle
    | _ => rfl
  refine h.shrink ?_ (fun _ he => mem_tlb_step hfills he) fun e _ => (idle_step hw hidle).hosts _ _
  rw [config_step op hcaching hupdate]

/-- Every operation, successful or not, keeps the cache to PASIDs that exist. -/
theorem Resident.step {c : Controller} (h : c.Resident) (hw : c.WellFormed) (op : Op) :
    (c.step op).1.Resident := by
  cases op with
  | removeStream id =>
    refine settle_preserves h fun c' hc => ?_
    obtain ⟨s, -, rfl⟩ := removeStream_eq_ok hc
    refine h.shrink rfl (fun e he => ((Tlb.mem_invalidateStream hw.indexed).1 he).1) ?_
    intro e he ⟨s₀, hs₀, hp⟩
    have hne : e.stream ≠ id := ((Tlb.mem_invalidateStream hw.indexed).1 he).2
    refine ⟨s₀, ?_, hp⟩
    show (c.streams.erase id)[e.stream]? = some s₀
    rw [Std.ExtTreeMap.getElem?_erase, if_neg (by simpa using hne.symm), hs₀]
  | removePasid id pasid =>
    refine settle_preserves h fun c' hc => ?_
    obtain ⟨s, hs, rfl⟩ := removePasid_eq_ok hc
    refine h.shrink rfl (fun e he => ((Tlb.mem_invalidatePasid hw.indexed).1 he).1) ?_
    intro e he hh
    have hne := ((Tlb.mem_invalidatePasid hw.indexed).1 he).2
    refine (hh.setStream hs { s with pasids := s.pasids.erase pasid } (hw.keyed id s hs)
      fun hid hp => ?_).congr rfl
    have hpasid : pasid ≠ e.pasid := fun hpe => hne ⟨hid, hpe.symm⟩
    show (s.pasids.erase pasid).contains e.pasid = true
    rw [Std.ExtTreeMap.contains_erase, Bool.and_eq_true]
    exact ⟨by simpa using hpasid, hp⟩
  | clearPasids id =>
    refine settle_preserves h fun c' hc => ?_
    obtain ⟨s, hs, rfl⟩ := clearPasids_eq_ok hc
    refine h.shrink rfl (fun e he => ((Tlb.mem_invalidateStream hw.indexed).1 he).1) ?_
    intro e he hh
    have hne : e.stream ≠ id := ((Tlb.mem_invalidateStream hw.indexed).1 he).2
    exact (hh.setStream hs s.clearPasids (hw.keyed id s hs) fun hid _ => absurd hid hne).congr rfl
  | translate t => exact kept_resident.translate hw h t
  | submitCommand cmd => exact h.congr (core_submitCommand c cmd)
  | processCommands => exact kept_resident.processCommands hw h
  | clearCommands => exact h.congr (core_clearCommands c)
  | submitPageRequest r => exact h.congr (core_submitPageRequest c r)
  | processPageRequests => exact h.congr (core_processPageRequests c)
  | clearPageRequests => exact h.congr (core_clearPageRequests c)
  | enableCaching enabled =>
    cases enabled with
    | true => exact ⟨fun e he => (h.hosted e he).congr rfl, nofun⟩
    | false => exact .of_empty rfl
  | updateConfiguration new found =>
    have hidle : Idle c (c.step (.updateConfiguration new found)).1 := idle_step hw rfl
    refine ⟨fun e he => hidle.hosts _ _ (h.hosted e (mem_tlb_step rfl he)), ?_⟩
    refine settle_preserves (P := fun d => d.config.cache.enabled = false → d.tlb.entries = []) h.off
      fun c' hc => ?_
    obtain ⟨-, events, commands, pageRequests, -, -, -, rfl⟩ := updateConfiguration_eq_ok hc
    intro hoff
    have hoff' : new.cache.enabled = false := hoff
    show (reshapeTlb c.tlb c.config new).entries = []
    rw [reshapeTlb, hoff']
    rfl
  | resetStatistics =>
    refine h.shrink rfl (fun _ he => he) fun e _ hh => ?_
    exact (hh.mapStreams (f := Stream.resetStatistics) fun _ => rfl).congr rfl
  | reset => exact .of_empty rfl
  | _ => exact h.idle hw rfl nofun nofun

/-! ## Conformance -/

/-- The state conforms to the configuration in force. -/
structure Conforms (c : Controller) : Prop where
  /-- The configuration is valid, streams are kept under their identifiers with the limits it gives
      them, and the index of the cache is right. -/
  wellFormed : c.WellFormed
  /-- Capacities are the configured sizes, and nothing holds more than its capacity. -/
  sized : c.Sized
  populated : c.Populated
  resident : c.Resident

/-- Each of the four is kept by every operation, failing ones included. -/
theorem Conforms.step {c : Controller} (h : c.Conforms) (op : Op) : (c.step op).1.Conforms :=
  ⟨h.wellFormed.step op, h.sized.step op, h.populated.step h.wellFormed op,
    h.resident.step h.wellFormed op⟩

/-- A new controller has no stream, nothing cached and empty queues. -/
theorem conforms_start {config : Configuration} (h : config.Valid) (sinks : List Sink)
    (deliveries : List Delivery) (resources : Resources) (clock : Nat) :
    (start config sinks deliveries resources clock).Conforms :=
  ⟨wellFormed_start h .., sized_start h .., populated_start .., .of_empty rfl⟩

/-- Every reachable state conforms to its configuration. -/
theorem conforms_run {config : Configuration} {c : Controller} (h : create config = .ok c)
    (ops : List Op) : (c.run ops).1.Conforms := by
  obtain ⟨hv, rfl⟩ := create_eq_ok h
  exact run_preserves (fun _ op hc => hc.step op) (conforms_start hv ..) ops

/-- A small configuration is refused while two commands wait and accepted once they have run; then there
    is no room for a second PASID, and the page cached before is gone. -/
theorem conforms_run_shrunk :
    let c := start {} [] [] .empty 0
    let small : Configuration :=
      { queues := { events := 2, commands := 1, pageRequests := 1, faultLog := 1 }
        cache := { size := 1 }
        widths := { streams := 1, pasids := 1 } }
    let ask : Op := .translate ⟨1, 0, 0x1234, .read, .nonSecure⟩
    let before : List Op := [.configure 1 {}, .createPasid 1 0,
      .map 1 0 ⟨0x1000, 0x8000, .full, .nonSecure⟩, ask, .submitCommand .sync, .submitCommand .sync,
      .updateConfiguration small 0]
    let after : List Op := [.processCommands, .updateConfiguration small 0, .createPasid 1 1]
    let ops := before ++ after
    create {} = .ok c ∧
      (c.run before).1.config = {} ∧ (c.run before).1.tlb.entries.length = 1 ∧
      (c.run ops).1.config = small ∧ (c.run ops).1.tlb.entries = [] ∧
      (c.run ops).2.map Except.isOk =
        [true, true, true, true, true, true, false, true, true, false] ∧
      (c.run ops).1.Conforms := by
  intro c small ask before after ops
  have hc : create {} = .ok c := rfl
  exact ⟨hc, by decide +kernel, by decide +kernel, by decide +kernel, by decide +kernel,
    by decide +kernel, conforms_run hc ops⟩

end Iommu.Controller
