/-
  What the operations on a stream do when they succeed.

  One inversion lemma for each operation: what it tested, and the stream it leaves.  All that touch
  the tables replace the table of one PASID that exists (`setPasidTable`), except the three that make
  or drop PASIDs.  The rest of the development reads the operations through these lemmas only.
-/
import Iommu.Proofs.PageTable.Bulk
import Iommu.Proofs.Stream.Walk

namespace Iommu

/-- Inserting what is there changes nothing. -/
theorem insert_of_getElem? {α β : Type} [Ord α] [Std.TransOrd α] [Std.LawfulEqOrd α]
    {m : Std.ExtTreeMap α β} {k : α} {v : β} (h : m[k]? = some v) : m.insert k v = m := by
  refine Std.ExtTreeMap.ext_getElem? fun k' => ?_
  rw [Std.ExtTreeMap.getElem?_insert]
  split
  · rename_i hk
    rw [← Std.LawfulEqOrd.eq_of_compare hk, h]
  · rfl

namespace Stream

theorem hasPasid_eq_true {s : Stream} {pasid : Pasid} :
    s.hasPasid pasid = true ↔ ∃ t, s.pasids[pasid]? = some t := by
  rw [hasPasid, Std.ExtTreeMap.contains_eq_isSome_getElem?, Option.isSome_iff_exists]

theorem getElem?_setPasidTable (s : Stream) (pasid p : Pasid) (t : PageTable) :
    (s.setPasidTable pasid t).pasids[p]? = if pasid = p then some t else s.pasids[p]? := by
  simp [setPasidTable, Std.ExtTreeMap.getElem?_insert]

/-- Writing back the table that is there changes nothing. -/
theorem setPasidTable_self {s : Stream} {pasid : Pasid} {t : PageTable}
    (ht : s.pasids[pasid]? = some t) : s.setPasidTable pasid t = s :=
  congrArg (fun pasids => { s with pasids }) (insert_of_getElem? ht)

/-! ## Inversion -/

/-- The width check passes when both addresses fit the stream's limits. -/
theorem checkWidths_eq_ok_iff {s : Stream} {m : Mapping} : s.checkWidths m = .ok () ↔
    fitsIn m.input s.limits.inputBits = true ∧ fitsIn m.physical s.limits.outputBits = true := by
  rw [checkWidths]
  cases fitsIn m.input s.limits.inputBits <;> cases fitsIn m.physical s.limits.outputBits <;> simp

/-- The bulk check passes when each mapping does. -/
theorem checkAllWidths_eq_ok_iff {s : Stream} {ms : List Mapping} :
    s.checkAllWidths ms = .ok () ↔ ∀ m ∈ ms, s.checkWidths m = .ok () := by
  induction ms with
  | nil => simp [checkAllWidths]
  | cons m ms ih =>
    rw [checkAllWidths, List.forall_mem_cons, ← ih]
    cases s.checkWidths m <;> simp

/-- A created stream has a valid configuration, the given limits and no PASID. -/
theorem create_eq_ok {id : StreamId} {config : StreamConfig} {limits : StreamLimits} {s : Stream}
    (h : create id config limits = .ok s) :
    config.isValid = true ∧ s.id = id ∧ s.limits = limits ∧ s.config = config ∧ s.pasids = ∅ := by
  rw [create] at h
  split at h
  · rename_i hv
    obtain rfl := Except.ok.inj h
    exact ⟨hv, rfl, rfl, rfl, rfl⟩
  · cases h

theorem configure_eq_ok {s s' : Stream} {config : StreamConfig} (h : s.configure config = .ok s') :
    config.isValid = true ∧ s' = { s with config } := by
  rw [configure] at h
  split at h
  · rename_i hv
    exact ⟨hv, (Except.ok.inj h).symm⟩
  · cases h

/-- An accepted PASID is admitted, and either was there already or had room and starts empty. -/
theorem createPasid_eq_ok {s s' : Stream} {pasid : Pasid} (h : s.createPasid pasid = .ok s') :
    s.admitsPasid pasid = true ∧
      (s' = s ∨ s.hasPasid pasid = false ∧ s.pasidCount < s.limits.maxPasids ∧
        s' = s.setPasidTable pasid .empty) := by
  rw [createPasid] at h
  split at h
  · cases h
  · rename_i ha
    refine ⟨by simpa using ha, ?_⟩
    split at h
    · exact Or.inl (Except.ok.inj h).symm
    · rename_i hp
      split at h
      · cases h
      · rename_i hc
        exact Or.inr ⟨by simpa using hp, by omega, (Except.ok.inj h).symm⟩

/-- Once a PASID is created it is there. -/
theorem hasPasid_of_createPasid {s s' : Stream} {pasid : Pasid} (h : s.createPasid pasid = .ok s') :
    s'.hasPasid pasid = true := by
  rw [createPasid] at h
  split at h
  · cases h
  · split at h
    · rename_i hp
      obtain rfl := Except.ok.inj h
      exact hp
    · split at h
      · cases h
      · obtain rfl := Except.ok.inj h
        exact Std.ExtTreeMap.contains_insert_self

/-- Only a present PASID is removed. -/
theorem removePasid_eq_ok {s s' : Stream} {pasid : Pasid} (h : s.removePasid pasid = .ok s') :
    s.hasPasid pasid = true ∧ s' = { s with pasids := s.pasids.erase pasid } := by
  rw [removePasid] at h
  split at h
  · rename_i hp
    exact ⟨hp, (Except.ok.inj h).symm⟩
  · cases h

/-- An accepted mapping fits the widths and goes to a present PASID. -/
theorem map_eq_ok {s s' : Stream} {pasid : Pasid} {m : Mapping} (h : s.map pasid m = .ok s') :
    s.checkWidths m = .ok () ∧
      ∃ t, s.pasids[pasid]? = some t ∧ s' = s.setPasidTable pasid (t.map m) := by
  rw [map] at h
  split at h
  · cases h
  · rename_i hw
    split at h
    · cases h
    · rename_i t ht
      exact ⟨hw, t, pasidTable_eq_ok_iff.1 ht, (Except.ok.inj h).symm⟩

theorem unmap_eq_ok {s s' : Stream} {pasid : Pasid} {a : UInt64} {b : Bool}
    (h : s.unmap pasid a = .ok (s', b)) :
    ∃ t, s.pasids[pasid]? = some t ∧ s' = s.setPasidTable pasid (t.unmap a) := by
  rw [unmap] at h
  split at h
  · cases h
  · rename_i t ht
    exact ⟨t, pasidTable_eq_ok_iff.1 ht, (Prod.mk.inj (Except.ok.inj h)).1.symm⟩

/-- An accepted bulk map fits the widths throughout and goes to one present PASID. -/
theorem mapPages_eq_ok {s s' : Stream} {pasid : Pasid} {ms : List Mapping}
    (h : s.mapPages pasid ms = .ok s') : s.checkAllWidths ms = .ok () ∧
      ∃ t, s.pasids[pasid]? = some t ∧ s' = s.setPasidTable pasid (ms.foldl PageTable.map t) := by
  rw [mapPages] at h
  split at h
  · cases h
  · rename_i hw
    split at h
    · cases h
    · rename_i t ht
      split at h
      · cases h
      · rename_i t' hm
        rw [PageTable.mapPages] at hm
        split at hm
        · cases hm
        · obtain rfl := Except.ok.inj hm
          exact ⟨hw, t, pasidTable_eq_ok_iff.1 ht, (Except.ok.inj h).symm⟩

/-- A list of mappings that is accepted names no page twice. -/
theorem nodup_of_mapPages {s s' : Stream} {pasid : Pasid} {ms : List Mapping}
    (h : s.mapPages pasid ms = .ok s') : (ms.map Mapping.page).Nodup := by
  rw [mapPages] at h
  split at h
  · cases h
  · split at h
    · cases h
    · split at h
      · cases h
      · rename_i t' hm
        rw [PageTable.mapPages] at hm
        split at hm
        · cases hm
        · rename_i hrepeat
          exact (PageTable.firstRepeat_eq_none.1 hrepeat).1

theorem unmapPages_eq_ok {s s' : Stream} {pasid : Pasid} {as : List UInt64}
    (h : s.unmapPages pasid as = .ok s') : ∃ t, s.pasids[pasid]? = some t ∧
      s' = s.setPasidTable pasid (as.foldl PageTable.unmap t) := by
  rw [unmapPages] at h
  split at h
  · cases h
  · rename_i t ht
    split at h
    · cases h
    · rename_i t' hm
      rw [PageTable.unmapPages] at hm
      split at hm
      · cases hm
      · obtain rfl := Except.ok.inj hm
        exact ⟨t, pasidTable_eq_ok_iff.1 ht, (Except.ok.inj h).symm⟩

/-! ## Walks kept -/

theorem Keeps.refl (s : Stream) (pasid : Pasid) (page : UInt64) : s.Keeps s pasid page :=
  ⟨rfl, rfl, fun he => he, rfl, rfl, fun first h => ⟨first, h, rfl⟩⟩

/-- A change that leaves stages, limits and tables alone, and does not disable, keeps every walk. -/
theorem Keeps.of_eq {s s' : Stream} {pasid : Pasid} {page : UInt64}
    (ht : s'.config.translationEnabled = s.config.translationEnabled)
    (hm : s'.config.stageMode = s.config.stageMode) (he : s.enabled = true → s'.enabled = true)
    (hl : s'.limits = s.limits) (htab : s'.table = s.table) (hp : s'.pasids = s.pasids) :
    s.Keeps s' pasid page :=
  ⟨ht, hm, he, hl, htab, fun first h => ⟨first, hp ▸ h, rfl⟩⟩

/-- Writing the table of a PASID keeps the walks of the other PASIDs, and of the pages that the new
    table holds as the old one did. -/
theorem Keeps.setPasidTable {s : Stream} {pasid p : Pasid} {t t' : PageTable} {page : UInt64}
    (ht : s.pasids[pasid]? = some t) (hl : p = pasid → t'.lookup page = t.lookup page) :
    s.Keeps (s.setPasidTable pasid t') p page := by
  refine ⟨rfl, rfl, fun he => he, rfl, rfl, fun first hfirst => ?_⟩
  rw [getElem?_setPasidTable]
  by_cases hp : pasid = p
  · subst hp
    obtain rfl : t = first := Option.some.inj (ht.symm.trans hfirst)
    exact ⟨t', if_pos rfl, hl rfl⟩
  · exact ⟨first, (if_neg hp).trans hfirst, rfl⟩

/-- Creating a PASID keeps every walk. -/
theorem Keeps.createPasid {s s' : Stream} {pasid p : Pasid} {page : UInt64}
    (h : s.createPasid pasid = .ok s') : s.Keeps s' p page := by
  obtain ⟨-, rfl | ⟨hp, -, rfl⟩⟩ := createPasid_eq_ok h
  · exact Keeps.refl s' p page
  · refine ⟨rfl, rfl, fun he => he, rfl, rfl, fun first hfirst => ?_⟩
    have hne : pasid ≠ p := by
      rintro rfl
      rw [hasPasid_eq_true.2 ⟨first, hfirst⟩] at hp
      cases hp
    exact ⟨first, by rw [getElem?_setPasidTable, if_neg hne, hfirst], rfl⟩

/-- Dropping a PASID keeps the walks of the others. -/
theorem Keeps.erasePasid {s : Stream} {pasid p : Pasid} {page : UInt64} (hp : p ≠ pasid) :
    s.Keeps { s with pasids := s.pasids.erase pasid } p page := by
  refine ⟨rfl, rfl, fun he => he, rfl, rfl, fun first hfirst => ⟨first, ?_, rfl⟩⟩
  show (s.pasids.erase pasid)[p]? = some first
  rw [Std.ExtTreeMap.getElem?_erase, if_neg (by simpa using hp.symm), hfirst]

end Stream

end Iommu
