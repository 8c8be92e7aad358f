/-
  How many streams and PASIDs there are.

  `Populated c` says that the stream table and every stream's PASIDs stay within the limits of the
  configuration in force, that every stream has a configuration with a stage to run, and that no PASID is
  out of range.  A stream is added only where the table has room and a PASID only where the stream has
  room (`Populated.add`, `Stream.Fits.createPasid`), and a configuration with lower limits is refused
  while there are more of either (`updateConfiguration_fits`).
-/
import Iommu.Proofs.Controller.StreamTable
import Iommu.Proofs.Controller.WellFormed

namespace Iommu

namespace Stream

/-- A configuration with a stage to run, no more PASIDs than a limit, and each of them in range. -/
structure Fits (s : Stream) (limit : Nat) : Prop where
  valid : s.config.isValid = true
  room : s.pasidCount ≤ limit
  inRange : ∀ pasid, s.hasPasid pasid = true → pasid ≤ maxPasid

namespace Fits

variable {s s' : Stream} {limit : Nat}

/-- Only the configuration and the PASIDs matter. -/
theorem of_eq (h : s.Fits limit) (hc : s'.config.isValid = true) (hp : s'.pasids = s.pasids) :
    s'.Fits limit := by
  refine ⟨hc, ?_, ?_⟩
  · rw [pasidCount, hp]
    exact h.room
  · unfold hasPasid
    rw [hp]
    exact h.inRange

/-- A stream without PASIDs. -/
theorem of_empty (hc : s.config.isValid = true) (hp : s.pasids = ∅) : s.Fits limit := by
  refine ⟨hc, ?_, fun pasid h => ?_⟩
  · rw [pasidCount, hp]
    exact Nat.zero_le _
  · simp [hasPasid, hp] at h

/-- The table of a PASID that exists is replaced. -/
theorem setPasidTable (h : s.Fits limit) {pasid : Pasid} {t : PageTable}
    (ht : s.pasids[pasid]? = some t) (t' : PageTable) : (s.setPasidTable pasid t').Fits limit := by
  have hhas : s.pasids.contains pasid = true := hasPasid_eq_true.2 ⟨t, ht⟩
  refine ⟨h.valid, ?_, fun p hp => ?_⟩
  · show (s.pasids.insert pasid t').size ≤ limit
    rw [Std.ExtTreeMap.size_insert, if_pos hhas]
    exact h.room
  · have hor : (s.pasids.insert pasid t').contains p = true := hp
    rw [Std.ExtTreeMap.contains_insert, Bool.or_eq_true] at hor
    rcases hor with he | hp
    · obtain rfl : pasid = p := by simpa using he
      exact h.inRange pasid hhas
    · exact h.inRange p hp

/-- A PASID is created only in range and only where the limit leaves room. -/
theorem createPasid (h : s.Fits limit) (hl : s.limits.maxPasids = limit) {pasid : Pasid}
    (hc : s.createPasid pasid = .ok s') : s'.Fits limit := by
  obtain ⟨hadmits, rfl | ⟨-, hroom, rfl⟩⟩ := createPasid_eq_ok hc
  · exact h
  · rw [admitsPasid, Bool.and_eq_true, decide_eq_true_eq] at hadmits
    refine ⟨h.valid, ?_, fun p hp => ?_⟩
    · rw [hl] at hroom
      exact Nat.le_trans Std.ExtTreeMap.size_insert_le hroom
    · have hor : (s.pasids.insert pasid .empty).contains p = true := hp
      rw [Std.ExtTreeMap.contains_insert, Bool.or_eq_true] at hor
      rcases hor with he | hp
      · obtain rfl : pasid = p := by simpa using he
        exact hadmits.1
      · exact h.inRange p hp

/-- With one PASID less there is room all the more. -/
theorem erasePasid (h : s.Fits limit) (pasid : Pasid) :
    ({ s with pasids := s.pasids.erase pasid } : Stream).Fits limit := by
  refine ⟨h.valid, Nat.le_trans Std.ExtTreeMap.size_erase_le h.room, fun p hp => ?_⟩
  have hin : (s.pasids.erase pasid).contains p = true := hp
  rw [Std.ExtTreeMap.contains_erase, Bool.and_eq_true] at hin
  exact h.inRange p hin.2

/-- Every edit leaves a stream that fits. -/
theorem edit (h : s.Fits limit) (hl : s.limits.maxPasids = limit) (he : s.Edit s') :
    s'.Fits limit := by
  cases he with
  | configured hv => exact h.of_eq hv rfl
  | switched enabled => exact h.of_eq h.valid rfl
  | tableAttached table => exact h.of_eq h.valid rfl
  | logAttached log => exact h.of_eq h.valid rfl
  | pasidCreated hp => exact h.createPasid hl hp
  | pasidRemoved pasid => exact h.erasePasid pasid
  | pasidsCleared => exact .of_empty h.valid rfl
  | rewritten t' ht => exact h.setPasidTable ht t'
  | served => exact h.of_eq h.valid rfl
  | faulted => exact h.of_eq h.valid rfl

end Fits

end Stream

namespace Controller

/-! ## Streams and PASIDs -/

/-- Streams and PASIDs are within the limits of the configuration in force. -/
structure Populated (c : Controller) : Prop where
  count : c.streamCount ≤ c.config.widths.streams.toNat
  fits : ∀ (id : StreamId) (s : Stream),
    c.streams[id]? = some s → s.Fits c.config.widths.pasids.toNat

/-- Whichever stream the search finds first, it finds none only if no stream holds too many PASIDs. -/
theorem overfullStream?_eq_none {c : Controller} {limit : Nat} {found : StreamId} :
    c.overfullStream? limit found = none ↔
      ∀ (id : StreamId) (s : Stream), c.streams[id]? = some s → s.pasidCount ≤ limit := by
  rw [overfullStream?, Option.or_eq_none_iff, List.find?_eq_none]
  constructor
  · rintro ⟨-, h⟩ id s hs
    simpa using h s (mem_values.2 ⟨id, hs⟩)
  · intro h
    refine ⟨?_, fun s hs => ?_⟩
    · rw [Option.filter_eq_none_iff]
      intro s hs
      simpa using h found s hs
    · obtain ⟨id, hget⟩ := mem_values.1 hs
      simpa using h id s hget

/-- A configuration is put in force only if there are no more streams and PASIDs than it allows. -/
theorem updateConfiguration_fits {c c' : Controller} {new : Configuration} {found : StreamId}
    (h : c.updateConfiguration new found = .ok c') :
    c.streamCount ≤ new.widths.streams.toNat ∧
      ∀ (id : StreamId) (s : Stream), c.streams[id]? = some s →
        s.pasidCount ≤ new.widths.pasids.toNat := by
  rw [updateConfiguration] at h
  split at h
  · cases h
  · split at h
    · cases h
    · rename_i hcount
      split at h
      · cases h
      · rename_i hnone
        exact ⟨Nat.not_lt.1 hcount, overfullStream?_eq_none.1 hnone⟩

/-- Without streams there are not too many. -/
theorem populated_start {config : Configuration} (sinks : List Sink) (deliveries : List Delivery)
    (resources : Resources) (clock : Nat) :
    (start config sinks deliveries resources clock).Populated := by
  refine ⟨Nat.zero_le _, fun id s hs => ?_⟩
  simp [start] at hs

namespace Populated

variable {c c' : Controller}

/-- Only the streams and the widths matter. -/
theorem congr (h : c.Populated) (hs : c'.streams = c.streams)
    (hwidths : c'.config.widths = c.config.widths) : c'.Populated := by
  refine ⟨?_, ?_⟩
  · rw [streamCount, hs, hwidths]
    exact h.count
  · rw [hs, hwidths]
    exact h.fits

/-- A stream is replaced by one that fits. -/
theorem replace (h : c.Populated) (hw : c.WellFormed) {id : StreamId} {s s' : Stream}
    (hs : c.streams[id]? = some s) (hid : s'.id = s.id)
    (hfits : s'.Fits c.config.widths.pasids.toNat) : (c.setStream s').Populated := by
  have hkey : s'.id = id := hid.trans (hw.keyed id s hs)
  refine ⟨?_, fun id' x hx => ?_⟩
  · have hmem : c.streams.contains s'.id = true := by
      rw [hkey, Std.ExtTreeMap.contains_eq_isSome_getElem?, hs]
      rfl
    show (c.streams.insert s'.id s').size ≤ c.config.widths.streams.toNat
    rw [Std.ExtTreeMap.size_insert, if_pos hmem]
    exact h.count
  · rw [getElem?_setStream] at hx
    split at hx
    · obtain rfl := Option.some.inj hx
      exact hfits
    · exact h.fits id' x hx

/-- A stream is added where the table has room. -/
theorem add (h : c.Populated) {s : Stream} (hroom : c.streamCount < c.config.widths.streams.toNat)
    (hfits : s.Fits c.config.widths.pasids.toNat) : (c.setStream s).Populated := by
  refine ⟨Nat.le_trans Std.ExtTreeMap.size_insert_le hroom, fun id x hx => ?_⟩
  rw [getElem?_setStream] at hx
  split at hx
  · obtain rfl := Option.some.inj hx
    exact hfits
  · exact h.fits id x hx

/-- With one stream less there is room all the more. -/
theorem erase (h : c.Populated) (id : StreamId) :
    ({ c with streams := c.streams.erase id } : Controller).Populated := by
  refine ⟨Nat.le_trans Std.ExtTreeMap.size_erase_le h.count, fun id' s hs => ?_⟩
  have herase : (c.streams.erase id)[id']? = some s := hs
  rw [Std.ExtTreeMap.getElem?_erase] at herase
  split at herase
  · cases herase
  · exact h.fits id' s herase

/-- Every stream is changed alike, and fits the limits in force then. -/
theorem mapStreams {f : Stream → Stream}
    (hcount : c.streamCount ≤ c'.config.widths.streams.toNat)
    (hfits : ∀ (id : StreamId) (s : Stream), c.streams[id]? = some s →
      (f s).Fits c'.config.widths.pasids.toNat)
    (hs : c'.streams = (c.mapStreams f).streams) : c'.Populated := by
  refine ⟨?_, fun id s hget => ?_⟩
  · rw [streamCount, hs]
    show (c.streams.map fun _ s => f s).size ≤ _
    rw [Std.ExtTreeMap.size_map]
    exact hcount
  · rw [hs, getElem?_mapStreams, Option.map_eq_some_iff] at hget
    obtain ⟨s₀, hs₀, rfl⟩ := hget
    exact hfits id s₀ hs₀

/-- Whatever happens to the stream table under the same limits keeps streams and PASIDs within them. -/
theorem restream (h : c.Populated) (hw : c.WellFormed) (hs : Restreamed c c'.streams)
    (hwidths : c'.config.widths = c.config.widths) : c'.Populated := by
  have hmap : ∀ f : Stream → Stream, (∀ s, (f s).config.isValid = s.config.isValid) →
      (∀ s, (f s).pasids = s.pasids) → c'.streams = (c.mapStreams f).streams → c'.Populated := by
    intro f hvalid hpasids hst
    refine .mapStreams (hwidths ▸ h.count) (fun id s hget => ?_) hst
    rw [hwidths]
    exact (h.fits id s hget).of_eq ((hvalid s).trans (h.fits id s hget).valid) (hpasids s)
  generalize hst : c'.streams = streams at hs
  cases hs with
  | kept => exact h.congr hst hwidths
  | @edited id s s' hget he =>
    have hlimit : s.limits.maxPasids = c.config.widths.pasids.toNat := by
      rw [hw.limits id s hget]
      rfl
    exact (h.replace hw hget he.id ((h.fits id s hget).edit hlimit he)).congr hst hwidths
  | added hroom hnew =>
    obtain ⟨hv, -, -, rfl, hp⟩ := Stream.create_eq_ok hnew
    exact (h.add hroom (.of_empty hv hp)).congr hst hwidths
  | removed id => exact (h.erase id).congr hst hwidths
  | faultModeSet mode => exact hmap (fun s => s.setFaultMode mode) (fun _ => rfl) (fun _ => rfl) hst
  | uncounted => exact hmap Stream.resetStatistics (fun _ => rfl) (fun _ => rfl) hst
  | emptied =>
    refine ⟨?_, fun id s hget => ?_⟩
    · rw [streamCount, hst]
      exact Nat.zero_le _
    · rw [hst] at hget
      simp at hget

/-- Every operation, successful or not, keeps streams and PASIDs within the limits. -/
theorem step (h : c.Populated) (hw : c.WellFormed) (op : Op) : (c.step op).1.Populated := by
  by_cases hupdate : ∃ new found, op = .updateConfiguration new found
  · obtain ⟨new, found, rfl⟩ := hupdate
    refine settle_preserves h fun c' hc => ?_
    obtain ⟨hcount, hroom⟩ := updateConfiguration_fits hc
    obtain ⟨-, events, commands, pageRequests, -, -, -, rfl⟩ := updateConfiguration_eq_ok hc
    refine .mapStreams (f := fun s => s.setLimits (limitsOf new)) hcount (fun id s hs => ?_) rfl
    exact ⟨(h.fits id s hs).valid, hroom id s hs, (h.fits id s hs).inRange⟩
  · have hop : ∀ new found, op ≠ .updateConfiguration new found := fun new found he =>
      hupdate ⟨new, found, he⟩
    obtain ⟨enabled, hconfig⟩ := config_step_eq (c := c) hop
    exact h.restream hw (restreamed_step c hop) (by rw [hconfig])

end Populated

end Controller

end Iommu
