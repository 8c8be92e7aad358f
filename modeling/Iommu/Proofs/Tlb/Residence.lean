/-
  What stays in the translation cache.

  `Indexed t` says that no two entries share a key and that the index lists the resident keys.  Every
  operation keeps it, and under it each operation has an exact account of the entries it leaves:

  * an insertion leaves the new entry and, of the others, only entries of other keys (`mem_insert`);
  * a lookup, a resize and an eviction only take entries away (`mem_lookup`, `mem_resize`);
  * an invalidation takes away what it names and nothing else (`mem_invalidateStream`,
    `mem_invalidatePasid`, `mem_invalidateRange`).

  The last three are where the index matters: an invalidation reads the keys it removes off the
  index, so an entry the index forgot would survive it.
-/
import Mathlib.Data.List.Perm.Basic
import Iommu.Proofs.Tlb.Index
import Iommu.Tlb

namespace Iommu

/-- Reading the selection at the base of the page is reading it anywhere in the page. -/
theorem PageRange.selects_pageBase (r : PageRange) (a : UInt64) :
    r.selects (pageBase a) = r.selects a := by
  rw [selects, selects, pageBase_pageBase]

namespace Tlb

/-- The keys of the entries, most recently used first. -/
def keys (t : Tlb) : List TlbKey := t.entries.map TlbEntry.key

/-- The resident keys are those of the entries. -/
theorem mem_keys {t : Tlb} {k : TlbKey} : k ∈ t.keys ↔ ∃ e ∈ t.entries, e.key = k :=
  List.mem_map

/-- No two entries share a key, and the index lists exactly the resident keys. -/
structure Indexed (t : Tlb) : Prop where
  distinct : t.keys.Nodup
  listed : t.index.Listed t.keys

/-- A new cache is indexed, with nothing in it. -/
theorem indexed_ofCapacity (capacity : Nat) : (ofCapacity capacity).Indexed :=
  ⟨List.nodup_nil, Index.listed_empty⟩

/-- What is found is resident under the key asked for. -/
theorem find?_eq_some {t : Tlb} {k : TlbKey} {e : TlbEntry} (h : t.find? k = some e) :
    e ∈ t.entries ∧ e.key = k :=
  ⟨List.mem_of_find?_eq_some h, by simpa using List.find?_some h⟩

/-- The membership test decides residence. -/
theorem contains_iff {t : Tlb} {k : TlbKey} : t.contains k = true ↔ k ∈ t.keys := by
  rw [contains, find?, List.find?_isSome, mem_keys]
  simp

theorem mem_without {k : TlbKey} {es : List TlbEntry} {e : TlbEntry} :
    e ∈ without k es ↔ e ∈ es ∧ e.key ≠ k := by
  simp [without]

/-! ## Taking entries away -/

/-- Taking away exactly the entries of some keys, from the list and from the index, keeps the two in
    agreement. -/
theorem Indexed.remove {t t' : Tlb} (h : t.Indexed) (gone : List TlbKey)
    (hsub : t'.entries.Sublist t.entries)
    (hmem : ∀ e ∈ t.entries, e ∈ t'.entries ↔ e.key ∉ gone)
    (hidx : t'.index = t.index.eraseAll gone) : t'.Indexed := by
  refine ⟨(hsub.map TlbEntry.key).nodup h.distinct, ?_⟩
  rw [hidx]
  refine (h.listed.eraseAll gone).congr fun k => ?_
  rw [List.mem_filter, decide_eq_true_eq, mem_keys, mem_keys]
  constructor
  · rintro ⟨e, he, rfl⟩
    have het := hsub.subset he
    exact ⟨⟨e, het, rfl⟩, (hmem e het).1 he⟩
  · rintro ⟨⟨e, he, rfl⟩, hk⟩
    exact ⟨e, (hmem e he).2 hk, rfl⟩

/-- Removing keys from the entries and the index keeps them in step. -/
theorem Indexed.removeKeys {t : Tlb} (h : t.Indexed) (gone : List TlbKey) :
    (t.removeKeys gone).Indexed := by
  refine h.remove gone List.filter_sublist (fun e he => ?_) rfl
  simp [Tlb.removeKeys, he]

theorem Indexed.bump {t : Tlb} (h : t.Indexed) : t.bump.Indexed := ⟨h.distinct, h.listed⟩

theorem Indexed.setMaxAge {t : Tlb} (h : t.Indexed) (maxAge : Nat) :
    ({ t with maxAge } : Tlb).Indexed :=
  ⟨h.distinct, h.listed⟩

-- through any limit at all: checking the limit of `setMaxAgeMs` itself would unfold its arithmetic
theorem Indexed.setMaxAgeMs {t : Tlb} (h : t.Indexed) (ms : UInt64) : (t.setMaxAgeMs ms).Indexed :=
  h.setMaxAge _

theorem Indexed.resetStatistics {t : Tlb} (h : t.Indexed) : t.resetStatistics.Indexed :=
  ⟨h.distinct, h.listed⟩

/-- Entries of different places in the list have different keys. -/
theorem Indexed.key_not_mem_drop {t : Tlb} (h : t.Indexed) (n : Nat) {e : TlbEntry}
    (he : e ∈ t.entries) : e ∈ t.entries.take n ↔ e.key ∉ (t.entries.drop n).map TlbEntry.key := by
  have hd := h.distinct
  rw [keys, ← List.take_append_drop n t.entries, List.map_append, List.nodup_append] at hd
  obtain ⟨-, -, hne⟩ := hd
  constructor
  · intro ht hk
    exact hne e.key (List.mem_map_of_mem ht) e.key hk rfl
  · intro hk
    rw [← List.take_append_drop n t.entries, List.mem_append] at he
    rcases he with ht | hdr
    · exact ht
    · exact absurd (List.mem_map_of_mem hdr) hk

/-- Resizing keeps the index in step, as it erases what it drops. -/
theorem Indexed.resize {t : Tlb} (h : t.Indexed) (capacity : Nat) : (t.resize capacity).Indexed :=
  h.remove _ (List.take_sublist _ _) (fun _ he => h.key_not_mem_drop _ he) rfl

theorem mem_resize {t : Tlb} {capacity : Nat} {e : TlbEntry}
    (h : e ∈ (t.resize capacity).entries) : e ∈ t.entries :=
  List.mem_of_mem_take h

/-! ## Insertion -/

/-- Putting an entry of a new key in front. -/
theorem Indexed.cons {t : Tlb} (h : t.Indexed) (e : TlbEntry) (hk : e.key ∉ t.keys) :
    ({ t with entries := e :: t.entries, index := t.index.insert e.key } : Tlb).Indexed :=
  ⟨List.nodup_cons.2 ⟨hk, h.distinct⟩, h.listed.insert e.key⟩

/-- Moving the entry of a key to the front, or putting another entry of its key there. -/
theorem Indexed.front {t : Tlb} (h : t.Indexed) (e : TlbEntry) :
    ({ t with entries := e :: without e.key t.entries, index := t.index.insert e.key } :
      Tlb).Indexed := by
  have hmem : ∀ k, k ∈ (without e.key t.entries).map TlbEntry.key ↔ k ∈ t.keys ∧ k ≠ e.key := by
    intro k
    rw [List.mem_map, mem_keys]
    constructor
    · rintro ⟨x, hx, rfl⟩
      obtain ⟨hxt, hne⟩ := mem_without.1 hx
      exact ⟨⟨x, hxt, rfl⟩, hne⟩
    · rintro ⟨⟨x, hx, rfl⟩, hne⟩
      exact ⟨x, mem_without.2 ⟨hx, hne⟩, rfl⟩
  constructor
  · refine List.nodup_cons.2 ⟨fun he => ((hmem _).1 he).2 rfl, ?_⟩
    exact (List.filter_sublist.map TlbEntry.key).nodup h.distinct
  · refine (h.listed.insert e.key).congr fun k => ?_
    rw [keys, List.map_cons, List.mem_cons, List.mem_cons, hmem]
    by_cases hke : k = e.key
    · simp [hke]
    · simp [hke]

/-- An insertion into a full cache is an insertion that evicts the entry in the last place. -/
theorem Indexed.evict {t : Tlb} (h : t.Indexed) (e : TlbEntry) {old : TlbEntry}
    (hk : e.key ∉ t.keys) (hold : t.entries.getLast? = some old) (evictions : Nat) :
    ({ t with
        entries := e :: t.entries.dropLast
        index := (t.index.insert e.key).erase old.key
        evictions } : Tlb).Indexed := by
  have hsplit : t.entries = t.entries.dropLast ++ [old] :=
    (List.dropLast_append_getLast? old hold).symm
  -- with the new entry in front the cache is one too large, and the last key is taken away
  have hcons := h.cons e hk
  refine hcons.remove [old.key] ?_ ?_ rfl
  · exact (List.dropLast_sublist t.entries).cons_cons e
  · have hd := hcons.distinct
    rw [keys, List.map_cons, hsplit, List.map_append, List.map_singleton, ← List.cons_append,
      List.nodup_append] at hd
    obtain ⟨-, -, hne⟩ := hd
    intro x hx
    rw [List.mem_singleton]
    constructor
    · intro hxd hxo
      have hxk : x.key ∈ (e.key :: t.entries.dropLast.map TlbEntry.key) :=
        List.mem_map_of_mem hxd
      exact hne x.key hxk old.key (List.mem_singleton.2 rfl) hxo
    · intro hxo
      rcases List.mem_cons.1 hx with rfl | hx
      · exact List.mem_cons_self
      · rw [hsplit, List.mem_append] at hx
        rcases hx with hx | hx
        · exact List.mem_cons_of_mem _ hx
        · exact absurd (congrArg TlbEntry.key (List.mem_singleton.1 hx)) hxo

/-- Insertion keeps the index in step, the evicted entry and the replaced one included. -/
theorem Indexed.insert {t : Tlb} (h : t.Indexed) (now : Nat) (e : TlbEntry) :
    (t.insert now e).1.Indexed := by
  simp only [Tlb.insert]
  split
  · exact h.front { e with timestamp := now }
  · rename_i hc
    have hk : e.key ∉ t.keys := fun hk => hc (contains_iff.2 hk)
    split
    · exact h.cons { e with timestamp := now } hk
    · split
      · rename_i hl
        have hnil : t.entries = [] := List.getLast?_eq_none_iff.1 hl
        have hcons := h.cons { e with timestamp := now } hk
        rw [hnil] at hcons
        exact hcons
      · rename_i hl
        exact h.evict { e with timestamp := now } hk hl _

/-- After an insertion an entry is the new one or an old one of another key. -/
theorem mem_insert {t : Tlb} {now : Nat} {e x : TlbEntry} (h : x ∈ (t.insert now e).1.entries) :
    x = { e with timestamp := now } ∨ x ∈ t.entries ∧ x.key ≠ e.key := by
  simp only [Tlb.insert] at h
  split at h
  · rcases List.mem_cons.1 h with rfl | h
    · exact Or.inl rfl
    · exact Or.inr (mem_without.1 h)
  · rename_i hc
    have hne : ∀ y ∈ t.entries, y.key ≠ e.key := by
      intro y hy hye
      exact hc (contains_iff.2 (mem_keys.2 ⟨y, hy, hye⟩))
    have hout : ∀ y, y ∈ t.entries.dropLast → y ∈ t.entries := fun y hy =>
      List.mem_of_mem_dropLast hy
    split at h
    · rcases List.mem_cons.1 h with rfl | h
      · exact Or.inl rfl
      · exact Or.inr ⟨h, hne x h⟩
    · split at h
      · exact Or.inl (List.mem_singleton.1 h)
      · rcases List.mem_cons.1 h with rfl | h
        · exact Or.inl rfl
        · exact Or.inr ⟨hout x h, hne x (hout x h)⟩

theorem Indexed.insertIfCurrent {t : Tlb} (h : t.Indexed) (now : Nat) (e : TlbEntry)
    (epoch : Nat) : (t.insertIfCurrent now e epoch).1.Indexed := by
  rw [Tlb.insertIfCurrent]
  split
  · exact h.insert now e
  · exact h

/-! ## Lookup -/

/-- A lookup keeps the index in step, whether it finds, ages out or misses. -/
theorem Indexed.lookup {t : Tlb} (h : t.Indexed) (now : Nat) (k : TlbKey) :
    (t.lookup now k).1.Indexed := by
  rw [Tlb.lookup]
  split
  · exact ⟨h.distinct, h.listed⟩
  · rename_i e hf
    obtain ⟨het, rfl⟩ := find?_eq_some hf
    have hk : e.key ∈ t.keys := mem_keys.2 ⟨e, het, rfl⟩
    -- the promoted entry is listed already, so listing it again changes nothing that is listed
    have hfront : ({ t with entries := e :: without e.key t.entries } : Tlb).Indexed := by
      refine ⟨(h.front e).distinct, h.listed.congr fun k => ?_⟩
      have hl := (h.front e).listed.mem_iff k.stream k.pasid k
      have hl' := (h.listed.insert e.key).mem_iff k.stream k.pasid k
      rw [hl', List.mem_cons] at hl
      have hkeys : k = e.key ∨ k ∈ t.keys ↔ k ∈ t.keys :=
        ⟨fun hor => hor.elim (fun he => he ▸ hk) id, Or.inr⟩
      rw [hkeys] at hl
      simpa [keys] using hl.symm
    split
    · refine h.remove [e.key] List.filter_sublist (fun x hx => ?_) rfl
      rw [List.mem_singleton]
      exact ⟨fun hx' => (mem_without.1 hx').2, fun hne => mem_without.2 ⟨hx, hne⟩⟩
    · split
      · exact ⟨hfront.distinct, hfront.listed⟩
      · exact ⟨hfront.distinct, hfront.listed⟩

theorem mem_lookup {t : Tlb} {now : Nat} {k : TlbKey} {x : TlbEntry}
    (h : x ∈ (t.lookup now k).1.entries) : x ∈ t.entries := by
  rw [Tlb.lookup] at h
  split at h
  · exact h
  · rename_i e hf
    split at h
    · exact (mem_without.1 h).1
    · have hcons : x ∈ e :: without k t.entries := by
        split at h <;> exact h
      rcases List.mem_cons.1 hcons with rfl | hx
      · exact (find?_eq_some hf).1
      · exact (mem_without.1 hx).1

/-- What a lookup finds is a resident valid entry of the key. -/
theorem lookup_eq_some {t : Tlb} {now : Nat} {k : TlbKey} {e : TlbEntry}
    (h : (t.lookup now k).2 = some e) : e ∈ t.entries ∧ e.key = k ∧ e.valid = true := by
  rw [Tlb.lookup] at h
  split at h
  · cases h
  · rename_i x hf
    split at h
    · cases h
    · split at h
      · rename_i hv
        obtain rfl : x = e := Option.some.inj h
        exact ⟨(find?_eq_some hf).1, (find?_eq_some hf).2, hv⟩
      · cases h

/-! ## Invalidation -/

theorem Indexed.invalidateAll {t : Tlb} (_ : t.Indexed) : t.invalidateAll.1.Indexed :=
  ⟨List.nodup_nil, Index.listed_empty⟩

/-- Invalidating a stream leaves the entries of the others. -/
theorem mem_invalidateStream {t : Tlb} (h : t.Indexed) {id : StreamId} {e : TlbEntry} :
    e ∈ (t.invalidateStream id).1.entries ↔ e ∈ t.entries ∧ e.stream ≠ id := by
  simp only [Tlb.invalidateStream, Tlb.bump]
  rw [List.mem_filter, Bool.not_eq_true', ← Bool.not_eq_true, List.contains_iff_mem,
    h.listed.mem_streamKeys_iff]
  constructor
  · rintro ⟨het, hk⟩
    exact ⟨het, fun hs => hk ⟨mem_keys.2 ⟨e, het, rfl⟩, hs⟩⟩
  · rintro ⟨het, hs⟩
    exact ⟨het, fun hk => hs hk.2⟩

/-- Invalidating a PASID leaves every entry not of that stream and PASID. -/
theorem mem_invalidatePasid {t : Tlb} (h : t.Indexed) {id : StreamId} {pasid : Pasid}
    {e : TlbEntry} : e ∈ (t.invalidatePasid id pasid).1.entries ↔
      e ∈ t.entries ∧ ¬(e.stream = id ∧ e.pasid = pasid) := by
  simp only [Tlb.invalidatePasid, Tlb.removeKeys, Tlb.bump]
  rw [List.mem_filter, Bool.not_eq_true', ← Bool.not_eq_true, List.contains_iff_mem,
    h.listed.mem_iff]
  constructor
  · rintro ⟨het, hk⟩
    exact ⟨het, fun hsp => hk ⟨mem_keys.2 ⟨e, het, rfl⟩, hsp⟩⟩
  · rintro ⟨het, hsp⟩
    exact ⟨het, fun hk => hsp hk.2⟩

/-- Invalidating a range leaves every entry that the range does not select. -/
theorem mem_invalidateRange {t : Tlb} (h : t.Indexed) {id : StreamId} {pasid : Pasid}
    {range : PageRange} {e : TlbEntry} : e ∈ (t.invalidateRange id pasid range).1.entries ↔
      e ∈ t.entries ∧ ¬(e.stream = id ∧ e.pasid = pasid ∧ range.selects e.page = true) := by
  simp only [Tlb.invalidateRange, Tlb.removeKeys, Tlb.bump]
  rw [List.mem_filter, Bool.not_eq_true', ← Bool.not_eq_true, List.contains_iff_mem,
    List.mem_filter, h.listed.mem_iff]
  rw [show e.key.page = pageBase e.page from rfl, range.selects_pageBase]
  constructor
  · rintro ⟨het, hk⟩
    exact ⟨het, fun ⟨hs, hp, hr⟩ => hk ⟨⟨mem_keys.2 ⟨e, het, rfl⟩, hs, hp⟩, hr⟩⟩
  · rintro ⟨het, hn⟩
    exact ⟨het, fun ⟨⟨_, hs, hp⟩, hr⟩ => hn ⟨hs, hp, hr⟩⟩

theorem Indexed.invalidateStream {t : Tlb} (h : t.Indexed) (id : StreamId) :
    (t.invalidateStream id).1.Indexed := by
  refine ⟨(List.filter_sublist.map TlbEntry.key).nodup h.distinct, ?_⟩
  refine (h.listed.eraseStream id).congr fun k => ?_
  rw [List.mem_filter, decide_eq_true_eq, mem_keys, mem_keys]
  constructor
  · rintro ⟨e, he, rfl⟩
    obtain ⟨het, hs⟩ := (mem_invalidateStream h).1 he
    exact ⟨⟨e, het, rfl⟩, hs⟩
  · rintro ⟨⟨e, he, rfl⟩, hs⟩
    exact ⟨e, (mem_invalidateStream h).2 ⟨he, hs⟩, rfl⟩

theorem Indexed.invalidatePasid {t : Tlb} (h : t.Indexed) (id : StreamId) (pasid : Pasid) :
    (t.invalidatePasid id pasid).1.Indexed :=
  (h.removeKeys _).bump

theorem Indexed.invalidateRange {t : Tlb} (h : t.Indexed) (id : StreamId) (pasid : Pasid)
    (range : PageRange) : (t.invalidateRange id pasid range).1.Indexed :=
  (h.removeKeys _).bump

end Tlb

end Iommu
