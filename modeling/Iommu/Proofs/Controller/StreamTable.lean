/-
  What an operation does to the stream table.

  There are few ways.  One stream is edited, a stream is added or removed, all are changed alike, or the
  table is emptied (`Restreamed`); and an edit of a stream replaces its configuration, a switch, an
  attachment, a PASID, a table or a count (`Stream.Edit`).  `restreamed_step` says so of every operation
  but a new configuration, so a property of streams needs one case for each way and not one for each
  operation.
-/
import Iommu.Proofs.Controller.Reach

namespace Iommu

/-- The ways in which an operation changes one stream. -/
inductive Stream.Edit (s : Stream) : Stream → Prop
  | configured {config : StreamConfig} : config.isValid = true → Edit s { s with config }
  | switched (enabled : Bool) : Edit s (s.setEnabled enabled)
  | tableAttached (table : Option TableId) : Edit s (s.attachTable table)
  | logAttached (log : Option LogId) : Edit s (s.attachLog log)
  | pasidCreated {pasid : Pasid} {s' : Stream} : s.createPasid pasid = .ok s' → Edit s s'
  | pasidRemoved (pasid : Pasid) : Edit s { s with pasids := s.pasids.erase pasid }
  | pasidsCleared : Edit s s.clearPasids
  | rewritten {pasid : Pasid} {t : PageTable} (t' : PageTable) : s.pasids[pasid]? = some t →
      Edit s (s.setPasidTable pasid t')
  | served : Edit s (s.countTranslation true)
  | faulted : Edit s (s.countTranslation false).countFault

/-- No edit gives a stream another number. -/
theorem Stream.Edit.id {s s' : Stream} (h : s.Edit s') : s'.id = s.id := by
  cases h with
  | pasidCreated hp =>
    obtain ⟨-, rfl | ⟨-, -, rfl⟩⟩ := createPasid_eq_ok hp <;> rfl
  | _ => rfl

namespace Controller

/-- The ways in which an operation changes the stream table. -/
inductive Restreamed (c : Controller) : Std.ExtTreeMap StreamId Stream → Prop
  | kept : Restreamed c c.streams
  | edited {id : StreamId} {s s' : Stream} : c.streams[id]? = some s → s.Edit s' →
      Restreamed c (c.setStream s').streams
  | added {id : StreamId} {config : StreamConfig} {s : Stream} :
      c.streamCount < c.config.widths.streams.toNat →
      Stream.create id config (limitsOf c.config) = .ok s → Restreamed c (c.setStream s).streams
  | removed (id : StreamId) : Restreamed c (c.streams.erase id)
  | faultModeSet (mode : FaultMode) : Restreamed c (c.setFaultMode mode).streams
  | uncounted : Restreamed c (c.mapStreams Stream.resetStatistics).streams
  | emptied : Restreamed c ∅

/-- A translation counts on its stream, and changes no other. -/
theorem restreamed_translate (c : Controller) (t : Transaction) :
    Restreamed c (c.translate t).1.streams := by
  have hset : ∀ s : Stream, ((c.lookupCache t).1.setStream s).streams =
      (c.setStream s).streams := by
    intro s
    rw [lookupCache_eq]
    rfl
  refine translate_cases (P := fun x => Restreamed c x.1.streams) ?_ ?_ ?_ ?_ ?_
  · intro _
    rw [show ((c.reportFault t _).countTranslation false).streams = c.streams from
      congrArg Core.streams (core_reportFault ..)]
    exact .kept
  · intro s e hs _
    exact hset _ ▸ .edited hs .served
  · intro s r epoch hs _
    rw [remember_eq]
    exact hset _ ▸ .edited hs .served
  · intro s f hs _ _
    have hmissed : ((((c.lookupCache t).1.missed s t f).reportFault t f).countTranslation
        false).streams = (c.setStream (s.countTranslation false).countFault).streams :=
      (congrArg Core.streams (core_reportFault ..)).trans (hset _)
    exact hmissed ▸ .edited hs .faulted
  · intro s f hs _ _ _
    have hmissed : (((((c.lookupCache t).1.missed s t f).reportFault t f).stall
        t).countTranslation false).streams =
          (c.setStream (s.countTranslation false).countFault).streams :=
      (congrArg Core.streams ((core_stall ..).trans (core_reportFault ..))).trans (hset _)
    exact hmissed ▸ .edited hs .faulted

/-- No command changes a stream. -/
theorem streams_processCommands (c : Controller) : c.processCommands.1.streams = c.streams := by
  rw [processed_processCommands c]

/-- What an operation other than a new configuration does to the stream table. -/
theorem restreamed_step (c : Controller) {op : Op}
    (hop : ∀ new found, op ≠ .updateConfiguration new found) :
    Restreamed c (c.step op).1.streams := by
  have hsettle : ∀ r : Except Error Controller,
      (∀ c', r = .ok c' → Restreamed c c'.streams) → Restreamed c (c.settle r).1.streams :=
    fun _ h => settle_preserves (P := fun d => Restreamed c d.streams) .kept h
  have hflag : ∀ r : Except Error (Controller × Bool),
      (∀ c' b, r = .ok (c', b) → Restreamed c c'.streams) →
      Restreamed c (c.settleFlag r).1.streams :=
    fun _ h => settleFlag_preserves (P := fun d => Restreamed c d.streams) .kept h
  cases op with
  | configure id config =>
    refine hsettle _ fun c' hc => ?_
    obtain ⟨s, hs, hv, rfl⟩ | ⟨-, hroom, s, hs, rfl⟩ := configure_eq_ok hc
    · exact .edited hs (.configured hv)
    · exact .added hroom hs
  | removeStream id =>
    refine hsettle _ fun c' hc => ?_
    obtain ⟨s, -, rfl⟩ := removeStream_eq_ok hc
    exact .removed id
  | enable id =>
    refine hsettle _ fun c' hc => ?_
    obtain ⟨s, hs, rfl⟩ := enable_eq_ok hc
    exact .edited hs (.switched true)
  | disable id =>
    refine hsettle _ fun c' hc => ?_
    obtain ⟨s, hs, rfl⟩ := disable_eq_ok hc
    exact .edited hs (.switched false)
  | setFaultMode mode => exact .faultModeSet mode
  | attachTable id table =>
    refine hsettle _ fun c' hc => ?_
    obtain ⟨s, hs, rfl⟩ := attachTable_eq_ok hc
    exact .edited hs (.tableAttached table)
  | attachLog id log =>
    refine hsettle _ fun c' hc => ?_
    obtain ⟨s, hs, rfl⟩ := attachLog_eq_ok hc
    exact .edited hs (.logAttached log)
  | createPasid id pasid =>
    refine hsettle _ fun c' hc => ?_
    obtain ⟨s, s', hs, hp, rfl⟩ := createPasid_eq_ok hc
    exact .edited hs (.pasidCreated hp)
  | removePasid id pasid =>
    refine hsettle _ fun c' hc => ?_
    obtain ⟨s, hs, rfl⟩ := removePasid_eq_ok hc
    exact .edited hs (.pasidRemoved pasid)
  | clearPasids id =>
    refine hsettle _ fun c' hc => ?_
    obtain ⟨s, hs, rfl⟩ := clearPasids_eq_ok hc
    exact .edited hs .pasidsCleared
  | map id pasid m =>
    refine hsettle _ fun c' hc => ?_
    obtain ⟨s, t, hs, -, ht, rfl⟩ := map_eq_ok hc
    exact .edited hs (.rewritten _ ht)
  | unmap id pasid a =>
    refine hflag _ fun c' b hc => ?_
    obtain ⟨s, t, hs, ht, rfl⟩ := unmap_eq_ok hc
    exact .edited hs (.rewritten _ ht)
  | mapPages id pasid ms =>
    refine hsettle _ fun c' hc => ?_
    obtain ⟨s, t, hs, -, ht, rfl⟩ := mapPages_eq_ok hc
    exact .edited hs (.rewritten _ ht)
  | unmapPages id pasid as =>
    refine hsettle _ fun c' hc => ?_
    obtain ⟨s, t, hs, ht, rfl⟩ := unmapPages_eq_ok hc
    exact .edited hs (.rewritten _ ht)
  | editTable id change =>
    refine hflag _ fun c' b hc => ?_
    obtain rfl := editTable_eq_ok hc
    exact .kept
  | translate t => exact restreamed_translate c t
  | processCommands =>
    rw [show (c.step .processCommands).1.streams = c.streams from streams_processCommands c]
    exact .kept
  | submitPageRequest r =>
    rw [show (c.step (.submitPageRequest r)).1.streams = c.streams from
      congrArg Core.streams (core_submitPageRequest c r)]
    exact .kept
  | clearPageRequests =>
    rw [show (c.step .clearPageRequests).1.streams = c.streams from
      congrArg Core.streams (core_clearPageRequests c)]
    exact .kept
  | enableCaching enabled => cases enabled <;> exact .kept
  | updateConfiguration new found => exact absurd rfl (hop new found)
  | resetStatistics => exact .uncounted
  | reset =>
    rw [show (c.step .reset).1.streams = ∅ by
      simp [step, reset, resetStatistics, mapStreams]]
    exact .emptied
  | _ => exact .kept

end Controller

end Iommu
