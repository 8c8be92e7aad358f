/-
  The index of cached keys has no empty part, and counts what it lists.

  The index keeps a list of keys for each PASID and a map of PASIDs for each stream.  `Tidy x` says that a
  PASID is there only with a key and a stream only with a PASID; listing a key and dropping keys keep it,
  because a list that becomes empty is dropped with its PASID, and a map with its stream
  (`Tidy.setStream`).

  The lists of one stream are disjoint, as each key stands under its own PASID.  So the number of keys
  that the index has for a stream is the number of keys of that stream (`Listed.countStream_eq`).
-/
import Iommu.Proofs.Tlb.Index

namespace Iommu.Tlb.Index

open Std (ExtTreeMap)

/-! ## No empty part -/

/-- Every PASID that is listed has a key. -/
def Filled (m : PasidIndex) : Prop := ∀ (p : Pasid) (ks : List TlbKey), m[p]? = some ks → ks ≠ []

/-- An index with no PASID has none without keys. -/
theorem filled_empty : Filled ∅ := fun _ _ h => by simp at h

/-- Adding a part with keys keeps every part filled. -/
theorem Filled.insert {m : PasidIndex} (h : Filled m) {ks : List TlbKey} (hks : ks ≠ [])
    (p : Pasid) : Filled (m.insert p ks) := by
  intro p' ks' h'
  rw [ExtTreeMap.getElem?_insert] at h'
  split at h'
  · exact Option.some.inj h' ▸ hks
  · exact h p' ks' h'

/-- Dropping a part keeps the others filled. -/
theorem Filled.erase {m : PasidIndex} (h : Filled m) (p : Pasid) : Filled (m.erase p) := by
  intro p' ks' h'
  rw [ExtTreeMap.getElem?_erase] at h'
  split at h'
  · cases h'
  · exact h p' ks' h'

/-- No stream is listed without a PASID, and no PASID without a key. -/
def Tidy (x : Index) : Prop :=
  ∀ (s : StreamId) (m : PasidIndex), x.streams[s]? = some m → m ≠ ∅ ∧ Filled m

theorem tidy_empty : Tidy empty := fun _ _ h => by simp [empty] at h

namespace Tidy

variable {x : Index}

theorem ofStream (h : x.Tidy) (s : StreamId) : Filled (x.ofStream s) := by
  rw [Index.ofStream, ExtTreeMap.getD_eq_getD_getElem?]
  cases hs : x.streams[s]? with
  | none => exact filled_empty
  | some m => exact (h s m hs).2

/-- Erasing a stream leaves no empty part. -/
theorem eraseStream (h : x.Tidy) (s : StreamId) : (x.eraseStream s).Tidy := by
  intro s' m hm
  have hm' : (x.streams.erase s)[s']? = some m := hm
  rw [ExtTreeMap.getElem?_erase] at hm'
  split at hm'
  · cases hm'
  · exact h s' m hm'

/-- A stream is listed with what it is given, or dropped if that is nothing. -/
theorem setStream (h : x.Tidy) {m : PasidIndex} (hm : Filled m) (s : StreamId) :
    (x.setStream s m).Tidy := by
  rw [Index.setStream]
  split
  · exact h.eraseStream s
  · rename_i hne
    intro s' m' hm'
    have hin : (x.streams.insert s m)[s']? = some m' := hm'
    rw [ExtTreeMap.getElem?_insert] at hin
    split at hin
    · obtain rfl := Option.some.inj hin
      exact ⟨fun he => hne (ExtTreeMap.isEmpty_iff.2 he), hm⟩
    · exact h s' m' hin

/-- Inserting a key leaves no empty part. -/
theorem insert (h : x.Tidy) (k : TlbKey) : (x.insert k).Tidy :=
  h.setStream ((h.ofStream k.stream).insert
    (List.ne_nil_of_mem (List.mem_insert_self ..)) k.pasid) k.stream

/-- Erasing the last key of a part drops the part. -/
theorem erase (h : x.Tidy) (k : TlbKey) : (x.erase k).Tidy := by
  simp only [Index.erase]
  refine h.setStream ?_ k.stream
  split
  · exact (h.ofStream k.stream).erase k.pasid
  · rename_i hne
    exact (h.ofStream k.stream).insert (fun he => hne (List.isEmpty_iff.2 he)) k.pasid

theorem eraseAll (h : x.Tidy) (gone : List TlbKey) : (x.eraseAll gone).Tidy := by
  induction gone generalizing x with
  | nil => exact h
  | cons k gone ih => exact ih (h.erase k)

end Tidy

/-! ## Counting -/

theorem pasidKeys_of_getElem? {x : Index} {s : StreamId} {p : Pasid} {ks : List TlbKey}
    (h : (x.ofStream s)[p]? = some ks) : x.pasidKeys s p = ks := by
  rw [pasidKeys, ExtTreeMap.getD_eq_getD_getElem?, h, Option.getD_some]

namespace Listed

variable {x : Index} {ks : List TlbKey}

/-- No key of a stream is listed twice, in one list or in two. -/
theorem nodup_streamKeys (h : Listed x ks) (s : StreamId) : (x.streamKeys s).Nodup := by
  rw [streamKeys, List.nodup_flatten]
  constructor
  · intro l hl
    obtain ⟨p, hp⟩ := mem_values.1 hl
    exact pasidKeys_of_getElem? hp ▸ h.nodup s p
  · rw [values_eq_map_snd, List.pairwise_map]
    refine List.Pairwise.imp_of_mem (fun {a b} ha hb hne k hka hkb => hne ?_)
      (ExtTreeMap.distinct_keys_toList (t := x.ofStream s))
    have hla := pasidKeys_of_getElem? (ExtTreeMap.mem_toList_iff_getElem?_eq_some.1 ha)
    have hlb := pasidKeys_of_getElem? (ExtTreeMap.mem_toList_iff_getElem?_eq_some.1 hb)
    -- a key in two lists would have two PASIDs
    rw [← hla] at hka
    rw [← hlb] at hkb
    have hpa := ((h.mem_iff s a.1 k).1 hka).2.2
    have hpb := ((h.mem_iff s b.1 k).1 hkb).2.2
    rw [← hpa, ← hpb]
    exact Std.ReflCmp.compare_self

/-- The index has as many keys for a stream as there are. -/
theorem countStream_eq (h : Listed x ks) (hks : ks.Nodup) (s : StreamId) :
    x.countStream s = ks.countP fun k => k.stream = s := by
  rw [countStream, List.countP_eq_length_filter]
  refine List.Perm.length_eq ?_
  rw [List.perm_ext_iff_of_nodup (h.nodup_streamKeys s) (hks.filter _)]
  intro k
  rw [h.mem_streamKeys_iff, List.mem_filter, decide_eq_true_eq]

end Listed

end Iommu.Tlb.Index
