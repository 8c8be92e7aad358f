/-
  Properties that translation and commands keep.

  A call to translate and a command do the same few things to the core: they drop entries of the cache,
  count with a stream, record a fault, and remember a walk.  A property that survives each of these
  (`Kept`) survives every call to translate (`Kept.translate`) and every command, alone or in the queue
  (`Kept.runFront`, `Kept.processCommands`).  What is proved of a run later on gives the five parts, not
  the ways they are put together.
-/
import Iommu.Proofs.Controller.WellFormed

namespace Iommu.Controller

/-- In a well-formed controller the property survives each part of a translation or a command. -/
structure Kept (P : Controller → Prop) : Prop where
  /-- It is a property of the core. -/
  congr {c c' : Controller} : P c → c'.core = c.core → P c'
  /-- The cache may lose entries. -/
  drop {c : Controller} {tlb : Tlb} : c.WellFormed → P c →
    (∀ e ∈ tlb.entries, e ∈ c.tlb.entries) → P { c with tlb }
  answered {c : Controller} {id : StreamId} {s : Stream} : c.WellFormed → P c →
    c.streams[id]? = some s → P (c.setStream (s.countTranslation true))
  missed {c : Controller} {id : StreamId} {s : Stream} : c.WellFormed → P c →
    c.streams[id]? = some s → ∀ t f, P (c.missed s t f)
  remembered {c : Controller} {s : Stream} {t : Transaction} {r : Translation} : c.WellFormed →
    P c → c.streams[t.stream]? = some s → s.walk c.resources t = .ok r →
    ∀ epoch, P (c.remember t r epoch)

namespace Kept

variable {P : Controller → Prop} {c c' : Controller}

/-- Through a lookup, -/
theorem lookupCache (hk : Kept P) (hw : c.WellFormed) (h : P c) (t : Transaction) :
    P (c.lookupCache t).1 := by
  have hsub : ∀ e ∈ (c.lookupCache t).1.tlb.entries, e ∈ c.tlb.entries := fun _ => mem_lookupCache
  unfold Controller.lookupCache at hsub ⊢
  split
  · rename_i hon
    rw [if_pos hon] at hsub
    exact hk.drop hw h hsub
  · exact h

/-- through a walk with all that a fault entails, -/
theorem walkStream (hk : Kept P) (hw : c.WellFormed) (h : P c) {s : Stream} {t : Transaction}
    (hs : c.streams[t.stream]? = some s) : P (c.walkStream s t).1 := by
  refine walkStream_cases (P := fun x => P x.1) ?_ ?_ ?_
  · -- the walk is remembered when its stream has counted it, which the walk does not notice
    intro r hr
    have hset : (c.setStream (s.countTranslation true)).streams[t.stream]? =
        some (s.countTranslation true) := by
      rw [getElem?_setStream]
      exact if_pos (hw.keyed t.stream s hs)
    exact hk.remembered (hw.replace hs (s.countTranslation true) rfl) (hk.answered hw h hs) hset hr _
  · intro f _ _
    exact hk.congr (hk.missed hw h hs t f) (core_reportFault ..)
  · intro f _ _ _
    exact hk.congr (hk.missed hw h hs t f) ((core_stall ..).trans (core_reportFault ..))

/-- A call to translate keeps the property. -/
theorem translate (hk : Kept P) (hw : c.WellFormed) (h : P c) (t : Transaction) :
    P (c.translate t).1 := by
  have hattempt : P (c.attempt t).1 := by
    refine attempt_cases (P := fun x => P x.1) ?_ ?_ ?_
    · intro _
      exact hk.congr h (core_reportFault ..)
    · intro s e hs _ _
      rw [← streams_lookupCache c t] at hs
      exact hk.answered (hw.lookupCache t) (hk.lookupCache hw h t) hs
    · intro s hs _
      rw [← streams_lookupCache c t] at hs
      exact hk.walkStream (hw.lookupCache t) (hk.lookupCache hw h t) hs
  rw [translate_eq]
  exact hk.congr hattempt (core_countTranslation ..)

/-- through a prefetch, -/
theorem prefetch (hk : Kept P) (hw : c.WellFormed) (h : P c) {s : Stream} {cmd : Command}
    (hs : c.streams[cmd.stream]? = some s) : P (c.prefetch s cmd) := by
  unfold Controller.prefetch
  split
  · dsimp only
    split
    · rename_i r hr
      exact hk.remembered hw h hs hr _
    · exact h
  · exact h

/-- and through the effect of any command on its stream. -/
theorem executeOn (hk : Kept P) (hw : c.WellFormed) (h : P c) {s : Stream} {cmd : Command}
    (hs : c.streams[cmd.stream]? = some s) : P (c.executeOn s cmd) := by
  have hrange : P (c.invalidateRange cmd.stream cmd.pasid cmd.range).1 :=
    hk.drop hw h fun _ he => ((Tlb.mem_invalidateRange hw.indexed).1 he).1
  have hstream : P (c.invalidateStream cmd.stream).1 :=
    hk.drop hw h fun _ he => ((Tlb.mem_invalidateStream hw.indexed).1 he).1
  unfold Controller.executeOn
  cases cmd.kind with
  | tlbiS12Vmall => exact hstream
  | cfgiSte => exact hstream
  | tlbiNhAsid => exact hk.drop hw h fun _ he => ((Tlb.mem_invalidatePasid hw.indexed).1 he).1
  | tlbiNhVa => exact hrange
  | atcInv => exact hk.congr hrange (core_emit ..)
  | prefetchAddr => exact hk.prefetch hw h hs
  | _ => exact hk.congr h rfl

/-- The command in front keeps the property. -/
theorem runFront (hk : Kept P) (hw : c.WellFormed) (h : P c) {cmd : Command}
    {report report' : CommandReport} (hf : c.runFront cmd report = some (c', report')) : P c' := by
  obtain ⟨-, -, rfl⟩ | ⟨-, done, hd, rfl⟩ | ⟨-, e, -, rfl⟩ := runFront_eq_some hf
  · exact hk.congr h rfl
  · refine hk.congr ?_ (core_consume done)
    obtain ⟨s, hs, rfl⟩ | ⟨-, -, rfl⟩ | ⟨-, -, rfl⟩ := execute_eq_ok hd
    · exact hk.executeOn hw h hs
    · exact h
    · exact hk.drop hw h fun _ he => by cases he
  · exact hk.congr h ((core_consume _).trans (core_failCommand ..))

/-- Processing the queue keeps the property. -/
theorem processCommands (hk : Kept P) (hw : c.WellFormed) (h : P c) : P c.processCommands.1 :=
  -- what a command drops is known of a well-formed cache, so the two go together
  (processCommands_preserves (P := fun c => P c ∧ c.WellFormed)
    (fun _ _ _ _ _ _ _ hf hc => ⟨hk.runFront hc.2 hc.1 hf, hc.2.runFront hf⟩)
    (fun _ hc => ⟨hk.congr hc.1 rfl, hc.2.congr rfl⟩) ⟨h, hw⟩).1

end Kept

end Iommu.Controller
