/-
  What the index of cached keys lists.

  The index is a map of maps; its reader is `pasidKeys`, the keys of one stream and PASID.  Each change
  is an equation on that reader (`pasidKeys_insert`, `pasidKeys_erase`, `pasidKeys_eraseStream`): it
  touches the list of the key's own stream and PASID and no other.  The keys of a whole stream are
  those of its PASIDs (`mem_streamKeys`).

  `Listed x ks` says that the index lists the keys of `ks`, each once and under its own stream and
  PASID, and nothing else.  Listing one more key and dropping some keep it (`Listed.insert`,
  `Listed.eraseAll`, `Listed.eraseStream`).
-/
import Mathlib.Data.List.Basic
import Mathlib.Data.List.Nodup
import Mathlib.Data.List.Infix
import Iommu.Tlb.Index

namespace Iommu

open Std (ExtTreeMap ExtDTreeMap DTreeMap TransOrd LawfulEqOrd)

/-! ## Values of a finite map -/

/-- A map's values are the second parts of its bindings. -/
theorem values_eq_map_snd {α β : Type} [Ord α] [TransOrd α] (m : ExtTreeMap α β) :
    m.values = m.toList.map Prod.snd := by
  rcases m with ⟨⟨q⟩⟩
  induction q using Quotient.ind with
  | _ t =>
    show t.inner.values = (DTreeMap.Internal.Impl.Const.toList t.inner).map Prod.snd
    rw [DTreeMap.Internal.Impl.values_eq_map_snd,
      DTreeMap.Internal.Impl.Const.toList_eq_toListModel_map, List.map_map]
    rfl

/-- A value of a map is the value of some key. -/
theorem mem_values {α β : Type} [Ord α] [TransOrd α] [LawfulEqOrd α] {m : ExtTreeMap α β} {v : β} :
    v ∈ m.values ↔ ∃ k : α, m[k]? = some v := by
  rw [values_eq_map_snd, List.mem_map]
  constructor
  · rintro ⟨⟨k, w⟩, hkw, rfl⟩
    exact ⟨k, ExtTreeMap.mem_toList_iff_getElem?_eq_some.1 hkw⟩
  · rintro ⟨k, hk⟩
    exact ⟨(k, v), ExtTreeMap.mem_toList_iff_getElem?_eq_some.2 hk, rfl⟩

namespace Tlb

namespace Index

/-! ## The keys of a stream and PASID after a change -/

/-- Writing one stream's part changes the keys of that stream only. -/
theorem pasidKeys_setStream (x : Index) (s s' : StreamId) (pasids : PasidIndex) (p : Pasid) :
    (x.setStream s pasids).pasidKeys s' p =
      if s = s' then pasids.getD p [] else x.pasidKeys s' p := by
  rw [pasidKeys, ofStream_setStream]
  split <;> rfl

/-- An insertion adds the key to its own stream and PASID. -/
theorem pasidKeys_insert (x : Index) (k : TlbKey) (s : StreamId) (p : Pasid) :
    (x.insert k).pasidKeys s p =
      if k.stream = s ∧ k.pasid = p then (x.pasidKeys s p).insert k else x.pasidKeys s p := by
  rw [insert, pasidKeys_setStream]
  by_cases hs : k.stream = s
  · subst hs
    by_cases hp : k.pasid = p
    · subst hp
      simp
    · simp [hp, ExtTreeMap.getD_insert, pasidKeys]
  · simp [hs]

/-- An erasure takes the key from its own stream and PASID, and drops parts left empty. -/
theorem pasidKeys_erase (x : Index) (k : TlbKey) (s : StreamId) (p : Pasid) :
    (x.erase k).pasidKeys s p =
      if k.stream = s ∧ k.pasid = p then (x.pasidKeys s p).erase k else x.pasidKeys s p := by
  simp only [erase, pasidKeys_setStream]
  by_cases hs : k.stream = s
  · subst hs
    by_cases hp : k.pasid = p
    · subst hp
      rw [if_pos rfl, if_pos (And.intro rfl rfl)]
      -- an emptied list is dropped from the map, which reads as empty again
      by_cases he : ((x.pasidKeys k.stream k.pasid).erase k).isEmpty = true
      · rw [if_pos he, List.isEmpty_iff.1 he]
        exact ExtTreeMap.getD_erase_self
      · rw [if_neg he]
        exact ExtTreeMap.getD_insert_self
    · have hne : ¬(k.stream = k.stream ∧ k.pasid = p) := fun h => hp h.2
      rw [if_pos rfl, if_neg hne]
      by_cases he : ((x.pasidKeys k.stream k.pasid).erase k).isEmpty = true
      · rw [if_pos he, ExtTreeMap.getD_erase, if_neg (by simpa using hp)]
        rfl
      · rw [if_neg he, ExtTreeMap.getD_insert, if_neg (by simpa using hp)]
        rfl
  · rw [if_neg hs, if_neg (fun h => hs h.1)]

/-- Erasing a stream forgets its keys under every PASID. -/
theorem pasidKeys_eraseStream (x : Index) (id s : StreamId) (p : Pasid) :
    (x.eraseStream id).pasidKeys s p = if id = s then [] else x.pasidKeys s p := by
  by_cases h : id = s
  · simp [eraseStream, pasidKeys, ofStream, h]
  · simp [eraseStream, pasidKeys, ofStream, h, ExtTreeMap.getD_erase]

/-- The empty index lists nothing. -/
theorem pasidKeys_empty (s : StreamId) (p : Pasid) : empty.pasidKeys s p = [] := by
  simp [empty, pasidKeys, ofStream]

/-- The keys of a stream are the keys of its PASIDs. -/
theorem mem_streamKeys {x : Index} {s : StreamId} {k : TlbKey} :
    k ∈ x.streamKeys s ↔ ∃ p, k ∈ x.pasidKeys s p := by
  rw [streamKeys, List.mem_flatten]
  constructor
  · rintro ⟨ks, hks, hk⟩
    obtain ⟨p, hp⟩ := mem_values.1 hks
    refine ⟨p, ?_⟩
    rw [pasidKeys, ExtTreeMap.getD_eq_getD_getElem?, hp]
    exact hk
  · rintro ⟨p, hp⟩
    rw [pasidKeys, ExtTreeMap.getD_eq_getD_getElem?] at hp
    cases h : (x.ofStream s)[p]? with
    | none => rw [h] at hp; cases hp
    | some ks =>
      rw [h] at hp
      exact ⟨ks, mem_values.2 ⟨p, h⟩, hp⟩

/-! ## What is listed -/

/-- The index lists exactly the keys of `ks`, each once, under its own stream and PASID. -/
structure Listed (x : Index) (ks : List TlbKey) : Prop where
  mem_iff : ∀ s p k, k ∈ x.pasidKeys s p ↔ k ∈ ks ∧ k.stream = s ∧ k.pasid = p
  nodup : ∀ s p, (x.pasidKeys s p).Nodup

/-- The empty index lists no keys. -/
theorem listed_empty : Listed empty [] := by
  constructor <;> intro s p <;> simp [pasidKeys_empty]

/-- The invariant only depends on which keys there are. -/
theorem Listed.congr {x : Index} {ks ks' : List TlbKey} (h : Listed x ks)
    (hk : ∀ k, k ∈ ks' ↔ k ∈ ks) : Listed x ks' :=
  ⟨fun s p k => by rw [h.mem_iff, hk], h.nodup⟩

/-- A stream's keys are those of the list that name it. -/
theorem Listed.mem_streamKeys_iff {x : Index} {ks : List TlbKey} (h : Listed x ks) {s : StreamId}
    {k : TlbKey} : k ∈ x.streamKeys s ↔ k ∈ ks ∧ k.stream = s := by
  rw [mem_streamKeys]
  constructor
  · rintro ⟨p, hp⟩
    obtain ⟨hk, hs, -⟩ := (h.mem_iff s p k).1 hp
    exact ⟨hk, hs⟩
  · rintro ⟨hk, hs⟩
    exact ⟨k.pasid, (h.mem_iff s k.pasid k).2 ⟨hk, hs, rfl⟩⟩

/-- Insertion into the index follows insertion into the list. -/
theorem Listed.insert {x : Index} {ks : List TlbKey} (h : Listed x ks) (k : TlbKey) :
    Listed (x.insert k) (k :: ks) := by
  constructor
  · intro s p k'
    rw [pasidKeys_insert, List.mem_cons]
    split
    · rename_i hk
      rw [List.mem_insert_iff, h.mem_iff]
      constructor
      · rintro (rfl | ⟨hm, hsp⟩)
        · exact ⟨Or.inl rfl, hk⟩
        · exact ⟨Or.inr hm, hsp⟩
      · rintro ⟨rfl | hm, hsp⟩
        · exact Or.inl rfl
        · exact Or.inr ⟨hm, hsp⟩
    · rename_i hk
      rw [h.mem_iff]
      constructor
      · rintro ⟨hm, hsp⟩
        exact ⟨Or.inr hm, hsp⟩
      · rintro ⟨rfl | hm, hsp⟩
        · exact absurd hsp hk
        · exact ⟨hm, hsp⟩
  · intro s p
    rw [pasidKeys_insert]
    split
    · exact (h.nodup s p).insert
    · exact h.nodup s p

/-- Erasure from the index follows removal from the list. -/
theorem Listed.erase {x : Index} {ks : List TlbKey} (h : Listed x ks) (k : TlbKey) :
    Listed (x.erase k) (ks.filter fun k' => k' ≠ k) := by
  constructor
  · intro s p k'
    rw [pasidKeys_erase, List.mem_filter, decide_eq_true_eq]
    split
    · rw [(h.nodup s p).mem_erase_iff, h.mem_iff]
      constructor
      · rintro ⟨hne, hm, hsp⟩
        exact ⟨⟨hm, hne⟩, hsp⟩
      · rintro ⟨⟨hm, hne⟩, hsp⟩
        exact ⟨hne, hm, hsp⟩
    · rename_i hk
      rw [h.mem_iff]
      constructor
      · rintro ⟨hm, hsp⟩
        exact ⟨⟨hm, fun he => hk (he ▸ hsp)⟩, hsp⟩
      · rintro ⟨⟨hm, -⟩, hsp⟩
        exact ⟨hm, hsp⟩
  · intro s p
    rw [pasidKeys_erase]
    split
    · exact (h.nodup s p).erase k
    · exact h.nodup s p

/-- So does the erasure of several keys. -/
theorem Listed.eraseAll {x : Index} {ks : List TlbKey} (h : Listed x ks) (gone : List TlbKey) :
    Listed (x.eraseAll gone) (ks.filter fun k => k ∉ gone) := by
  induction gone generalizing x ks with
  | nil => exact h.congr fun k => by simp
  | cons k gone ih =>
    refine (ih (h.erase k)).congr fun k' => ?_
    simp only [List.mem_filter, List.mem_cons, decide_eq_true_eq]
    tauto

/-- So does the erasure of a stream. -/
theorem Listed.eraseStream {x : Index} {ks : List TlbKey} (h : Listed x ks) (id : StreamId) :
    Listed (x.eraseStream id) (ks.filter fun k => k.stream ≠ id) := by
  constructor
  · intro s p k
    rw [pasidKeys_eraseStream, List.mem_filter, decide_eq_true_eq]
    split
    · rename_i hid
      refine ⟨fun hk => absurd hk (by simp), ?_⟩
      rintro ⟨⟨-, hne⟩, hs, -⟩
      exact absurd (hs.trans hid.symm) hne
    · rename_i hid
      rw [h.mem_iff]
      constructor
      · rintro ⟨hm, hs, hp⟩
        exact ⟨⟨hm, fun he => hid (he.symm.trans hs)⟩, hs, hp⟩
      · rintro ⟨⟨hm, -⟩, hsp⟩
        exact ⟨hm, hsp⟩
  · intro s p
    rw [pasidKeys_eraseStream]
    split
    · exact List.nodup_nil
    · exact h.nodup s p

end Index

end Tlb

end Iommu
