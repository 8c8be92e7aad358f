/-
  The operations of the cache that an operation of the controller performs.

  The controller reaches its cache through the operations of the cache alone.  Which kinds an operation
  performs is a table (`Op.performs`): every operation may invalidate, calls to translate look up and
  insert, commands insert what they prefetch, and only a new configuration resizes.  `tlb_step` says
  that the cache after an operation comes of the cache before it by such changes, so what these keep
  the operation keeps: the capacity unless the configuration changes, and the entries unless
  something is translated or prefetched.
-/
import Iommu.Proofs.Controller.Reach
import Iommu.Proofs.Tlb.Room

namespace Iommu.Controller

/-- The kinds of cache operations that an operation performs. -/
def Op.performs : Op → Tlb.Op → Bool
  | .translate _, .lookup _ _ => true
  | .translate _, .insertIfCurrent _ _ _ => true
  | .processCommands, .insertIfCurrent _ _ _ => true
  | .updateConfiguration _ _, .resize _ => true
  | .updateConfiguration _ _, .setMaxAgeMs _ => true
  | .resetStatistics, .resetStatistics => true
  | .reset, .resetStatistics => true
  | _, .invalidateAll => true
  | _, .invalidateStream _ => true
  | _, .invalidatePasid _ _ => true
  | _, .invalidateRange _ _ _ => true
  | _, _ => false

/-- Operations that may bring an entry into the cache. -/
def Op.fills : Op → Bool
  | .translate _ => true
  | .processCommands => true
  | _ => false

/-- Only a new configuration resizes the cache. -/
theorem resizes_of_performs {op : Op} (h : ∀ new found, op ≠ .updateConfiguration new found)
    {change : Tlb.Op} (hp : op.performs change = true) : change.resizes = false := by
  cases change with
  | resize capacity =>
    cases op with
    | updateConfiguration new found => exact absurd rfl (h new found)
    | _ => cases hp
  | _ => rfl

/-- Only translation and commands fill the cache. -/
theorem inserts_of_performs {op : Op} (h : op.fills = false) {change : Tlb.Op}
    (hp : op.performs change = true) : change.inserts = false := by
  cases change with
  | insert now e => cases op <;> cases hp
  | insertIfCurrent now e epoch =>
    cases op with
    | translate t => cases h
    | processCommands => cases h
    | _ => cases hp
  | _ => rfl

/-! ## Parts of a translation and of a command -/

section

variable {p : Tlb.Op → Bool} (c : Controller)

/-- With caching on the cache is looked up once, else not at all. -/
theorem changed_lookupCache (h : ∀ now k, p (.lookup now k) = true) (t : Transaction) :
    Tlb.Changed p c.tlb (c.lookupCache t).1.tlb := by
  unfold lookupCache
  split
  · exact .one (.lookup _ _) (h _ _)
  · exact .refl

/-- With caching on the translation is offered once, else not at all. -/
theorem changed_remember (h : ∀ now e epoch, p (.insertIfCurrent now e epoch) = true)
    (t : Transaction) (r : Translation) (epoch : Nat) :
    Tlb.Changed p c.tlb (c.remember t r epoch).tlb := by
  unfold remember
  split
  · exact .one (.insertIfCurrent _ _ _) (h _ _ _)
  · exact .refl

/-- A prefetch offers at most one translation. -/
theorem changed_prefetch (h : ∀ now e epoch, p (.insertIfCurrent now e epoch) = true)
    (s : Stream) (cmd : Command) : Tlb.Changed p c.tlb (c.prefetch s cmd).tlb := by
  unfold prefetch
  dsimp only
  split
  · split
    · exact changed_remember c h ..
    · exact .refl
  · exact .refl

end

/-- A call looks the cache up and may offer one translation. -/
theorem changed_translate (c : Controller) (t : Transaction) :
    Tlb.Changed (Op.translate t).performs c.tlb (c.translate t).1.tlb := by
  have hlookup := changed_lookupCache (p := (Op.translate t).performs) c (fun _ _ => rfl) t
  refine translate_cases (P := fun x => Tlb.Changed (Op.translate t).performs c.tlb x.1.tlb)
    ?_ ?_ ?_ ?_ ?_
  · intro _
    rw [show ((c.reportFault t _).countTranslation false).tlb = c.tlb from
      congrArg Core.tlb (core_reportFault ..)]
    exact .refl
  · exact fun _ _ _ _ => hlookup
  · intro s r epoch _ _
    exact hlookup.trans (changed_remember ((c.lookupCache t).1.setStream (s.countTranslation true))
      (fun _ _ _ => rfl) t r epoch)
  · intro s f _ _ _
    rw [show ((((c.lookupCache t).1.missed s t f).reportFault t f).countTranslation false).tlb =
      (c.lookupCache t).1.tlb from congrArg Core.tlb (core_reportFault ..)]
    exact hlookup
  · intro s f _ _ _ _
    rw [show (((((c.lookupCache t).1.missed s t f).reportFault t f).stall t).countTranslation
      false).tlb = (c.lookupCache t).1.tlb from
      congrArg Core.tlb ((core_stall ..).trans (core_reportFault ..))]
    exact hlookup

/-- A command invalidates, or offers a translation. -/
theorem changed_executeOn (c : Controller) (s : Stream) (cmd : Command) :
    Tlb.Changed Op.processCommands.performs c.tlb (c.executeOn s cmd).tlb := by
  have hrange : Tlb.Changed Op.processCommands.performs c.tlb
      (c.invalidateRange cmd.stream cmd.pasid cmd.range).1.tlb :=
    .one (.invalidateRange cmd.stream cmd.pasid cmd.range) rfl
  unfold executeOn
  cases cmd.kind with
  | tlbiS12Vmall => exact .one (.invalidateStream cmd.stream) rfl
  | cfgiSte => exact .one (.invalidateStream cmd.stream) rfl
  | tlbiNhAsid => exact .one (.invalidatePasid cmd.stream cmd.pasid) rfl
  | tlbiNhVa => exact hrange
  | atcInv =>
    dsimp only
    rw [emit_eq]
    exact hrange
  | prefetchAddr => exact changed_prefetch c (fun _ _ _ => rfl) s cmd
  | _ => exact .refl

/-- The command in front does to the cache what its kind does. -/
theorem changed_runFront {c c' : Controller} {cmd : Command} {report report' : CommandReport}
    (h : c.runFront cmd report = some (c', report')) :
    Tlb.Changed Op.processCommands.performs c.tlb c'.tlb := by
  obtain ⟨-, -, rfl⟩ | ⟨-, done, hd, rfl⟩ | ⟨-, e, -, rfl⟩ := runFront_eq_some h
  · exact .refl
  · obtain ⟨s, -, rfl⟩ | ⟨-, -, rfl⟩ | ⟨-, -, rfl⟩ := execute_eq_ok hd
    · exact changed_executeOn c s cmd
    · exact .refl
    · exact .one .invalidateAll rfl
  · rw [show (c.failCommand cmd).consume.tlb = c.tlb from congrArg Core.tlb (core_failCommand ..)]
    exact .refl

/-- The cache is resized and given its age limit, and emptied if it has to be. -/
theorem changed_reshapeTlb (t : Tlb) (old new : Configuration) :
    Tlb.Changed (Op.updateConfiguration new found).performs t (reshapeTlb t old new) := by
  have hsized : Tlb.Changed (Op.updateConfiguration new found).performs t
      (t.resize new.cache.size.toNat) := .one (.resize new.cache.size.toNat) rfl
  have haged := hsized.step (.setMaxAgeMs new.cache.maxAgeMs) rfl
  unfold reshapeTlb
  dsimp only
  split
  · exact haged.step .invalidateAll rfl
  · exact haged

/-! ## Steps -/

/-- The cache after an operation comes of the cache before it by the kinds of changes that the
    operation performs. -/
theorem tlb_step (c : Controller) (op : Op) :
    Tlb.Changed op.performs c.tlb (c.step op).1.tlb := by
  have hsettle : ∀ r : Except Error Controller,
      (∀ c', r = .ok c' → Tlb.Changed op.performs c.tlb c'.tlb) →
      Tlb.Changed op.performs c.tlb (c.settle r).1.tlb := fun _ h =>
    settle_preserves (P := fun d => Tlb.Changed op.performs c.tlb d.tlb) .refl h
  have hflag : ∀ r : Except Error (Controller × Bool),
      (∀ c' b, r = .ok (c', b) → Tlb.Changed op.performs c.tlb c'.tlb) →
      Tlb.Changed op.performs c.tlb (c.settleFlag r).1.tlb := fun _ h =>
    settleFlag_preserves (P := fun d => Tlb.Changed op.performs c.tlb d.tlb) .refl h
  cases op with
  | configure id config =>
    refine hsettle _ fun c' hc => ?_
    obtain ⟨s, -, -, rfl⟩ | ⟨-, -, s, -, rfl⟩ := configure_eq_ok hc
    · exact .one (.invalidateStream id) rfl
    · exact .refl
  | removeStream id =>
    refine hsettle _ fun c' hc => ?_
    obtain ⟨s, -, rfl⟩ := removeStream_eq_ok hc
    exact .one (.invalidateStream id) rfl
  | enable id =>
    refine hsettle _ fun c' hc => ?_
    obtain ⟨s, -, rfl⟩ := enable_eq_ok hc
    exact .refl
  | disable id =>
    refine hsettle _ fun c' hc => ?_
    obtain ⟨s, -, rfl⟩ := disable_eq_ok hc
    exact .one (.invalidateStream id) rfl
  | attachTable id table =>
    refine hsettle _ fun c' hc => ?_
    obtain ⟨s, -, rfl⟩ := attachTable_eq_ok hc
    exact .one (.invalidateStream id) rfl
  | attachLog id log =>
    refine hsettle _ fun c' hc => ?_
    obtain ⟨s, -, rfl⟩ := attachLog_eq_ok hc
    exact .refl
  | createPasid id pasid =>
    refine hsettle _ fun c' hc => ?_
    obtain ⟨s, s', -, -, rfl⟩ := createPasid_eq_ok hc
    exact .refl
  | removePasid id pasid =>
    refine hsettle _ fun c' hc => ?_
    obtain ⟨s, -, rfl⟩ := removePasid_eq_ok hc
    exact .one (.invalidatePasid id pasid) rfl
  | clearPasids id =>
    refine hsettle _ fun c' hc => ?_
    obtain ⟨s, -, rfl⟩ := clearPasids_eq_ok hc
    exact .one (.invalidateStream id) rfl
  | map id pasid m =>
    refine hsettle _ fun c' hc => ?_
    obtain ⟨s, t, -, -, -, rfl⟩ := map_eq_ok hc
    exact .one (.invalidateRange id pasid (.single m.input)) rfl
  | unmap id pasid a =>
    refine hflag _ fun c' b hc => ?_
    obtain ⟨s, t, -, -, rfl⟩ := unmap_eq_ok hc
    exact .one (.invalidateRange id pasid (.single a)) rfl
  | mapPages id pasid ms =>
    refine hsettle _ fun c' hc => ?_
    obtain ⟨s, t, -, -, -, rfl⟩ := mapPages_eq_ok hc
    exact .one (.invalidatePasid id pasid) rfl
  | unmapPages id pasid as =>
    refine hsettle _ fun c' hc => ?_
    obtain ⟨s, t, -, -, rfl⟩ := unmapPages_eq_ok hc
    exact .one (.invalidatePasid id pasid) rfl
  | editTable id change =>
    refine hflag _ fun c' b hc => ?_
    obtain rfl := editTable_eq_ok hc
    exact .refl
  | translate t => exact changed_translate c t
  | processCommands =>
    exact processCommands_preserves (P := fun d =>
      Tlb.Changed Op.processCommands.performs c.tlb d.tlb)
      (fun _ _ _ _ _ _ _ hf h => h.trans (changed_runFront hf)) (fun _ h => h) .refl
  | submitPageRequest r =>
    rw [show (c.step (.submitPageRequest r)).1.tlb = c.tlb from
      congrArg Core.tlb (core_submitPageRequest c r)]
    exact .refl
  | clearPageRequests =>
    rw [show (c.step .clearPageRequests).1.tlb = c.tlb from
      congrArg Core.tlb (core_clearPageRequests c)]
    exact .refl
  | invalidateAll => exact .one .invalidateAll rfl
  | invalidateStream id => exact .one (.invalidateStream id) rfl
  | invalidatePasid id pasid => exact .one (.invalidatePasid id pasid) rfl
  | enableCaching enabled =>
    cases enabled with
    | true => exact .refl
    | false => exact .one .invalidateAll rfl
  | updateConfiguration new found =>
    refine hsettle _ fun c' hc => ?_
    obtain ⟨-, events, commands, pageRequests, -, -, -, rfl⟩ := updateConfiguration_eq_ok hc
    exact changed_reshapeTlb c.tlb c.config new
  | resetStatistics => exact .one .resetStatistics rfl
  | reset =>
    exact .step .resetStatistics (.one .invalidateAll rfl) rfl
  | _ => exact .refl

/-- Operations that neither translate nor run commands only take entries away. -/
theorem mem_tlb_step {c : Controller} {op : Op} (h : op.fills = false) {e : TlbEntry}
    (he : e ∈ (c.step op).1.tlb.entries) : e ∈ c.tlb.entries :=
  (tlb_step c op).mem (fun _ => inserts_of_performs h) he

end Iommu.Controller
