/-
  The share of a stream in the translation cache.

  All streams share one cache.  `entriesOf other` is what it holds of one of them, most recently used
  first, and the question is what a change about stream `id` does to it.

  * An invalidation and a lookup leave it as it is: what an invalidation removes is read off the index,
    and the index lists keys of `id` alone (`entriesOf_invalidateStream` and its companions,
    `entriesOf_lookup`).
  * An insertion leaves it as it is where the key is resident or there is room
    (`entriesOf_insert_of_room`).  In a full cache it may cost the share its last entry, if that is the
    least recently used entry of all (`Cedes`, `cedes_insert`).

  A lookup that misses and the insertion that answers it are for one key, so the two together cede no
  more than the insertion alone (`cedes_lookup_insert`).
-/
import Iommu.Proofs.Tlb.Room

namespace Iommu.Tlb

/-- The entries of a stream, most recently used first. -/
def entriesOf (t : Tlb) (stream : StreamId) : List TlbEntry :=
  t.entries.filter fun e => e.stream = stream

/-- The share of a stream in a full cache has given its last entry, the least recently used of all, to
    a new entry of another stream. -/
structure Evicts (id other : StreamId) (t t' : Tlb) (new old : TlbEntry) : Prop where
  full : t.size = t.capacity
  last : t.entries.getLast? = some old
  owner : old.stream = other
  first : t'.entries.head? = some new
  inserted : new.stream = id
  absent : new.key ∉ t.keys
  share : t.entriesOf other = t'.entriesOf other ++ [old]

/-- A change about one stream leaves the share of another as it was, or evicts its last entry for a new
    one. -/
inductive Cedes (id other : StreamId) (t t' : Tlb) : Prop
  | kept : t'.entriesOf other = t.entriesOf other → Cedes id other t t'
  | evicted {new old : TlbEntry} : Evicts id other t t' new old → Cedes id other t t'

variable {t t' : Tlb} {id other : StreamId}

theorem entriesOf_congr (h : t'.entries = t.entries) : t'.entriesOf other = t.entriesOf other := by
  rw [entriesOf, entriesOf, h]

/-! ## Taking entries away -/

/-- Taking away entries of other streams only. -/
theorem entriesOf_filter {p : TlbEntry → Bool} (h : t'.entries = t.entries.filter p)
    (hkeep : ∀ e ∈ t.entries, e.stream = other → e ∈ t'.entries) :
    t'.entriesOf other = t.entriesOf other := by
  rw [entriesOf, entriesOf, h, List.filter_filter]
  refine List.filter_congr fun e he => ?_
  by_cases hs : e.stream = other
  · have hin := hkeep e he hs
    rw [h] at hin
    rw [(List.mem_filter.1 hin).2, Bool.and_true]
  · simp [hs]

/-- Invalidating another stream leaves this one's entries. -/
theorem entriesOf_invalidateStream (h : t.Indexed) (hne : other ≠ id) :
    (t.invalidateStream id).1.entriesOf other = t.entriesOf other :=
  entriesOf_filter rfl fun _ he hs =>
    (mem_invalidateStream h).2 ⟨he, fun hid => hne (hs.symm.trans hid)⟩

/-- So does invalidating a PASID of another stream. -/
theorem entriesOf_invalidatePasid (h : t.Indexed) (hne : other ≠ id) (pasid : Pasid) :
    (t.invalidatePasid id pasid).1.entriesOf other = t.entriesOf other :=
  entriesOf_filter rfl fun _ he hs =>
    (mem_invalidatePasid h).2 ⟨he, fun hid => hne (hs.symm.trans hid.1)⟩

/-- So does invalidating a range of another stream. -/
theorem entriesOf_invalidateRange (h : t.Indexed) (hne : other ≠ id) (pasid : Pasid)
    (range : PageRange) :
    (t.invalidateRange id pasid range).1.entriesOf other = t.entriesOf other :=
  entriesOf_filter rfl fun _ he hs =>
    (mem_invalidateRange h).2 ⟨he, fun hid => hne (hs.symm.trans hid.1)⟩

/-- Taking out a key of another stream leaves this one's entries. -/
theorem filter_without {k : TlbKey} (es : List TlbEntry) (hne : other ≠ k.stream) :
    (without k es).filter (fun e => e.stream = other) = es.filter fun e => e.stream = other := by
  rw [without, List.filter_filter]
  refine List.filter_congr fun e _ => ?_
  by_cases hs : e.stream = other
  · have hk : e.key ≠ k := fun hk => hne (hs.symm.trans (congrArg TlbKey.stream hk))
    simp [hk]
  · simp [hs]

/-! ## Lookup -/

/-- A lookup moves or drops an entry of its own key. -/
theorem entriesOf_lookup {k : TlbKey} (hne : other ≠ k.stream) (now : Nat) :
    (t.lookup now k).1.entriesOf other = t.entriesOf other := by
  rw [Tlb.lookup]
  split
  · rfl
  · rename_i e hf
    have hes : e.stream ≠ other := fun hs =>
      hne (hs.symm.trans (congrArg TlbKey.stream (find?_eq_some hf).2))
    have hfront : (e :: without k t.entries).filter (fun e => e.stream = other) =
        t.entriesOf other := by
      rw [List.filter_cons_of_neg (by simpa using hes), filter_without _ hne]
      rfl
    split
    · exact filter_without _ hne
    · split <;> exact hfront

/-! ## Insertion -/

theorem entriesOf_cons {e : TlbEntry} {es : List TlbEntry} (hes : e.stream ≠ other)
    (h : t.entries = e :: es) : t.entriesOf other = es.filter fun e => e.stream = other := by
  rw [entriesOf, h, List.filter_cons_of_neg (by simpa using hes)]

/-- Nothing is evicted where the key is resident or there is room for it. -/
theorem entriesOf_insert_of_room {e : TlbEntry} (hne : other ≠ e.stream) (now : Nat)
    (hroom : t.contains e.key = true ∨ t.size < t.capacity) :
    (t.insert now e).1.entriesOf other = t.entriesOf other := by
  have hes : ({ e with timestamp := now } : TlbEntry).stream ≠ other := hne.symm
  simp only [Tlb.insert]
  split
  · exact (entriesOf_cons hes rfl).trans (filter_without _ hne)
  · rename_i hc
    rw [if_pos (hroom.resolve_left hc)]
    exact entriesOf_cons hes rfl

/-- An insertion for one stream takes from another at most the evicted entry. -/
theorem cedes_insert {n : Nat} (h : t.Holds n) {e : TlbEntry} (hne : other ≠ e.stream)
    (now : Nat) : Cedes e.stream other t (t.insert now e).1 := by
  by_cases hroom : t.contains e.key = true ∨ t.size < t.capacity
  · exact .kept (entriesOf_insert_of_room hne now hroom)
  · rw [not_or] at hroom
    obtain ⟨hc, hfull⟩ := hroom
    have hes : ({ e with timestamp := now } : TlbEntry).stream ≠ other := hne.symm
    have hsize : t.size = t.capacity :=
      Nat.le_antisymm (h.capacity ▸ h.size) (Nat.not_lt.1 hfull)
    simp only [Tlb.insert]
    split
    · rename_i hin
      exact absurd hin hc
    · split
      · rename_i hl
        refine .kept ((entriesOf_cons hes rfl).trans ?_)
        rw [entriesOf, List.getLast?_eq_none_iff.1 hl]
      · rename_i old hl
        have hsplit : t.entries = t.entries.dropLast ++ [old] :=
          (List.dropLast_append_getLast? old hl).symm
        -- the evicted entry is of the share, or of a stream that this is not about
        by_cases ho : old.stream = other
        · refine @Cedes.evicted e.stream other t _ { e with timestamp := now } old
            ⟨hsize, hl, ho, rfl, rfl, ?_, ?_⟩
          · exact fun hk => hc (contains_iff.2 hk)
          · refine Eq.trans ?_ (congrArg (· ++ [old]) (entriesOf_cons hes rfl).symm)
            rw [entriesOf, hsplit, List.filter_append, List.dropLast_concat,
              List.filter_cons_of_pos (by simpa using ho), List.filter_nil]
        · refine .kept ((entriesOf_cons hes rfl).trans ?_)
          rw [entriesOf, hsplit, List.filter_append, List.dropLast_concat,
            List.filter_cons_of_neg (by simpa using ho), List.filter_nil, List.append_nil]

/-- So does an insertion under the epoch test. -/
theorem cedes_insertIfCurrent {n : Nat} (h : t.Holds n) {e : TlbEntry} (hne : other ≠ e.stream)
    (now epoch : Nat) : Cedes e.stream other t (t.insertIfCurrent now e epoch).1 := by
  rw [Tlb.insertIfCurrent]
  split
  · exact cedes_insert h hne now
  · exact .kept rfl

/-- A cache with the same entries and the same capacity cedes alike. -/
theorem Cedes.congr {u : Tlb} (h : Cedes id other u t') (he : u.entries = t.entries)
    (hc : u.capacity = t.capacity) : Cedes id other t t' := by
  rcases h with hkept | ⟨hfull, hlast, howner, hfirst, hinserted, habsent, hshare⟩
  · exact .kept (hkept.trans (entriesOf_congr he))
  · refine .evicted ⟨?_, he ▸ hlast, howner, hfirst, hinserted, ?_, ?_⟩
    · rw [← hc, ← hfull, size, size, he]
    · rw [keys, ← he]
      exact habsent
    · rw [← hshare, entriesOf_congr he]

/-- A lookup and the insertion of an entry of its key cede no more than the insertion. -/
theorem cedes_lookup_insert {n : Nat} (h : t.Holds n) {e : TlbEntry} (hne : other ≠ e.stream)
    (now epoch : Nat) :
    Cedes e.stream other t ((t.lookup now e.key).1.insertIfCurrent now e epoch).1 := by
  cases hf : t.find? e.key with
  | none =>
    have hmiss : (t.lookup now e.key).1 = { t with misses := t.misses + 1 } := by
      rw [Tlb.lookup, hf]
    have hmissed : ({ t with misses := t.misses + 1 } : Tlb).Holds n :=
      h.shrink rfl (Nat.le_refl _)
    rw [hmiss]
    exact Cedes.congr (cedes_insertIfCurrent hmissed hne now epoch) rfl rfl
  | some x =>
    obtain ⟨hmem, hkey⟩ := find?_eq_some hf
    -- the entry of the key is in front, or it is gone and has left room
    have hroom : (t.lookup now e.key).1.contains e.key = true ∨
        (t.lookup now e.key).1.size < (t.lookup now e.key).1.capacity := by
      rw [Tlb.lookup, hf]
      dsimp only
      split
      · refine Or.inr (Nat.lt_of_lt_of_le (length_without_lt ⟨x, hmem, hkey⟩) ?_)
        exact h.capacity ▸ h.size
      · refine Or.inl (contains_iff.2 (mem_keys.2 ⟨x, ?_, hkey⟩))
        split <;> exact List.mem_cons_self
    refine .kept (Eq.trans ?_ (entriesOf_lookup (t := t) (k := e.key) hne now))
    rw [Tlb.insertIfCurrent]
    split
    · exact entriesOf_insert_of_room hne now hroom
    · rfl

end Iommu.Tlb
