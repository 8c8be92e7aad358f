/-
  A larger translation cache holds everything that a smaller one holds.

  Two caches go through the same changes at the same times.  They soon differ in more than size: the
  larger one brings to the front what the smaller one has already evicted, replaces where the smaller one
  evicts, and drops aged entries that only it holds.  What stays is `Inside s t`: the entries of the
  smaller cache are among those of the larger one, in the same order, and the larger one has at least as
  much room left.

  The room is the crux.  The larger cache must not evict an entry that the smaller one keeps, and it
  evicts only when it has no room left; then the smaller one has none either, and evicts too.  An
  insertion is a single cut (`entries_insert`): the new entry goes in front, the old one of its key goes
  away, and what exceeds the capacity falls off the end.  With room on the larger side a cut of both
  keeps the inclusion (`take_sublist_take`), and so does taking entries away by key from both
  (`Inside.removed`).
-/
import Iommu.Proofs.Tlb.History

namespace Iommu

/-! ## Lists -/

/-- Cutting two lists, one inside the other, when no more is cut off the longer one. -/
theorem take_sublist_take {α : Type} {xs ys : List α} (h : xs.Sublist ys) {m n : Nat}
    (hroom : ys.length + m ≤ xs.length + n) : (xs.take m).Sublist (ys.take n) := by
  induction h generalizing m n with
  | slnil => simp
  | @cons xs ys y h ih =>
    have hlength := h.length_le
    rw [List.length_cons] at hroom
    -- the longer list keeps at least one member more
    obtain ⟨n, rfl⟩ : ∃ k, n = k + 1 := ⟨n - 1, by omega⟩
    exact (ih (by omega)).cons y
  | @cons_cons xs ys y h ih =>
    have hlength := h.length_le
    rw [List.length_cons, List.length_cons] at hroom
    cases m with
    | zero => exact List.nil_sublist _
    | succ m =>
      obtain ⟨n, rfl⟩ : ∃ k, n = k + 1 := ⟨n - 1, by omega⟩
      exact (ih (by omega)).cons_cons y

/-- A condition takes no more members from a list inside another than from that one. -/
theorem length_filter_add_le {α : Type} {xs ys : List α} (h : xs.Sublist ys) (p : α → Bool) :
    (ys.filter p).length + xs.length ≤ (xs.filter p).length + ys.length := by
  have hx := List.length_eq_length_filter_add (l := xs) p
  have hy := List.length_eq_length_filter_add (l := ys) p
  have hgone := (h.filter fun x => !p x).length_le
  omega

namespace Tlb

/-! ## Insertion as a cut -/

theorem without_of_not_mem {t : Tlb} {k : TlbKey} (hk : k ∉ t.keys) : without k t.entries = t.entries :=
  List.filter_eq_self.2 fun e he => decide_eq_true fun heq => hk (mem_keys.2 ⟨e, he, heq⟩)

/-- After an insertion the new entry is in front, the others follow, without that of its key, and the list
    is cut at the capacity. -/
theorem entries_insert {t : Tlb} (h : t.Sound) (now : Nat) (e : TlbEntry) :
    (t.insert now e).1.entries =
      ({ e with timestamp := now } :: without e.key t.entries).take t.capacity := by
  have hsize : t.entries.length ≤ t.capacity := h.room.size
  refine insert_cases (P := fun r => r.1.entries =
    ({ e with timestamp := now } :: without e.key t.entries).take t.capacity) h.room.positive ?_ ?_ ?_
  · intro hk
    have hlength : (without e.key t.entries).length + 1 = t.entries.length :=
      length_without_add h.indexed hk
    refine (List.take_of_length_le ?_).symm
    rw [List.length_cons]
    omega
  · intro hk hroom
    rw [without_of_not_mem hk]
    exact (List.take_of_length_le hroom).symm
  · intro old hk hfull hold
    have hcapacity : t.capacity = t.entries.length := Nat.le_antisymm hfull hsize
    have hpos : 0 < t.entries.length := hcapacity ▸ h.room.positive
    rw [without_of_not_mem hk, hcapacity]
    show _ :: t.entries.dropLast = _
    rw [List.dropLast_eq_take, ← List.take_succ_cons, Nat.sub_add_cancel hpos]

/-! ## A lookup, by what it finds -/

/-- The entry of a key, if it is within the age limit. -/
def current (t : Tlb) (now : Nat) (k : TlbKey) : Option TlbEntry :=
  (t.find? k).filter fun e => !t.isAged now e

/-- A lookup takes the entry of its key out of the list and puts it in front again, if it is current. -/
theorem entries_lookup (t : Tlb) (now : Nat) (k : TlbKey) :
    (t.lookup now k).1.entries = (t.current now k).toList ++ without k t.entries := by
  rw [Tlb.lookup, current]
  cases hf : t.find? k with
  | none =>
    have hk : k ∉ t.keys := fun hk => by
      rw [← contains_iff, Tlb.contains, hf] at hk
      cases hk
    exact (without_of_not_mem hk).symm
  | some e =>
    cases haged : t.isAged now e with
    | true => simp [haged, Option.filter_some]
    | false => cases hvalid : e.valid <;> simp [haged, hvalid, Option.filter_some]

/-- It answers that entry, if it is valid. -/
theorem answer_lookup (t : Tlb) (now : Nat) (k : TlbKey) :
    (t.lookup now k).2 = (t.current now k).filter TlbEntry.valid := by
  rw [Tlb.lookup, current]
  cases hf : t.find? k with
  | none => rfl
  | some e =>
    cases haged : t.isAged now e with
    | true => simp [haged, Option.filter_some]
    | false => cases hvalid : e.valid <;> simp [haged, hvalid, Option.filter_some]

/-- After a lookup the cache holds the current entry, if any, and those of other keys. -/
theorem size_lookup_eq (t : Tlb) (now : Nat) (k : TlbKey) : (t.lookup now k).1.size =
    (t.current now k).toList.length + (without k t.entries).length := by
  rw [size, entries_lookup, List.length_append]

/-! ## Settings -/

/-- Capacity, age limit and epoch: what an operation consults apart from the entries. -/
def settings (t : Tlb) : Nat × Nat × Nat := (t.capacity, t.maxAge, t.epoch)

theorem settings_insert (t : Tlb) (now : Nat) (e : TlbEntry) :
    (t.insert now e).1.settings = t.settings := by
  simp only [Tlb.insert]
  split
  · rfl
  · split
    · rfl
    · split <;> rfl

theorem settings_lookup (t : Tlb) (now : Nat) (k : TlbKey) :
    (t.lookup now k).1.settings = t.settings := by
  rw [Tlb.lookup]
  split
  · rfl
  · split
    · rfl
    · split <;> rfl

/-- An invalidation keeps the settings but for the next epoch. -/
theorem settings_of_removed {t : Tlb} {op : Op} {n : Nat} (hn : (t.step op).2 = .removed n) :
    (t.step op).1.settings = (t.capacity, t.maxAge, t.epoch + 1) := by
  cases op with
  | invalidateAll => rfl
  | invalidateStream stream => rfl
  | invalidatePasid stream pasid => rfl
  | invalidateRange stream pasid range => rfl
  | _ => cases hn

/-! ## Inclusion -/

/-- The entries of `s` are among those of `t`, in the same order, and `t` has at least as much room left.
    The two agree on the age limit and on the number of invalidations. -/
structure Inside (s t : Tlb) : Prop where
  entries : s.entries.Sublist t.entries
  room : t.size + s.capacity ≤ s.size + t.capacity
  maxAge : s.maxAge = t.maxAge
  epoch : s.epoch = t.epoch

/-- A new cache lies inside any larger new cache. -/
theorem inside_ofCapacity {m n : Nat} (h : m ≤ n) : (ofCapacity m).Inside (ofCapacity n) := by
  refine ⟨List.Sublist.slnil, ?_, rfl, rfl⟩
  show 0 + max 1 m ≤ 0 + max 1 n
  omega

namespace Inside

variable {s t s' t' : Tlb}

/-- An entry of the smaller cache is found in the larger one. -/
theorem find?_eq (h : s.Inside t) (ht : t.Indexed) {k : TlbKey} {e : TlbEntry}
    (he : s.find? k = some e) : t.find? k = some e := by
  obtain ⟨hmem, rfl⟩ := find?_eq_some he
  exact ht.find?_key (h.entries.subset hmem)

theorem isAged_eq (h : s.Inside t) (now : Nat) (e : TlbEntry) : s.isAged now e = t.isAged now e := by
  rw [isAged, isAged, h.maxAge]

/-- What is current in the smaller cache is current in the larger one. -/
theorem current_eq (h : s.Inside t) (ht : t.Indexed) {now : Nat} {k : TlbKey} {e : TlbEntry}
    (he : s.current now k = some e) : t.current now k = some e := by
  rw [current, Option.filter_eq_some_iff] at he ⊢
  exact ⟨h.find?_eq ht he.1, h.isAged_eq now e ▸ he.2⟩

theorem settings_eq (h : s.Inside t) : t.settings = (t.capacity, s.maxAge, s.epoch) := by
  rw [settings, h.maxAge, h.epoch]

/-- The invariant from equal settings, included entries and room enough. -/
theorem of_settings {maxAge epoch m n : Nat} (hs : s.settings = (m, maxAge, epoch))
    (ht : t.settings = (n, maxAge, epoch)) (hentries : s.entries.Sublist t.entries)
    (hroom : t.size + m ≤ s.size + n) : s.Inside t := by
  simp only [settings, Prod.mk.injEq] at hs ht
  obtain ⟨⟨rfl, rfl, rfl⟩, rfl, hmaxAge, hepoch⟩ := And.intro hs ht
  exact ⟨hentries, hroom, hmaxAge.symm, hepoch.symm⟩

/-- An insertion keeps the smaller cache inside the larger. -/
theorem insert (h : s.Inside t) (hs : s.Sound) (ht : t.Sound) (now : Nat) (e : TlbEntry) :
    (s.insert now e).1.Inside (t.insert now e).1 := by
  have hroom := h.room
  have hwithout : (without e.key s.entries).Sublist (without e.key t.entries) := h.entries.filter _
  have hgone : (without e.key t.entries).length + s.size ≤ (without e.key s.entries).length + t.size :=
    length_filter_add_le h.entries _
  refine of_settings (settings_insert s now e) ((settings_insert t now e).trans h.settings_eq) ?_ ?_
  · rw [entries_insert hs, entries_insert ht]
    refine take_sublist_take (hwithout.cons_cons _) ?_
    rw [List.length_cons, List.length_cons]
    omega
  · -- a list that is cut leaves no room, and one that is not has lost one place
    rw [size, size, entries_insert hs, entries_insert ht, List.length_take, List.length_take,
      List.length_cons, List.length_cons]
    omega

/-- A lookup keeps the smaller cache inside the larger. -/
theorem lookup (h : s.Inside t) (hs : s.Indexed) (ht : t.Indexed) (now : Nat) (k : TlbKey) :
    (s.lookup now k).1.Inside (t.lookup now k).1 := by
  have hroom := h.room
  have hwithout : (without k s.entries).Sublist (without k t.entries) := h.entries.filter _
  have hgone : (without k t.entries).length + s.size ≤ (without k s.entries).length + t.size :=
    length_filter_add_le h.entries _
  refine of_settings (settings_lookup s now k) ((settings_lookup t now k).trans h.settings_eq) ?_ ?_
  · rw [entries_lookup, entries_lookup]
    refine List.Sublist.append ?_ hwithout
    cases hcurrent : s.current now k with
    | none => exact List.nil_sublist _
    | some e => rw [h.current_eq ht hcurrent]
  · rw [size_lookup_eq, size_lookup_eq]
    cases hcurrent : s.current now k with
    | some e =>
      rw [h.current_eq ht hcurrent]
      omega
    | none =>
      cases hcurrent' : t.current now k with
      | none =>
        rw [Option.toList_none, List.length_nil]
        omega
      | some e =>
        -- the larger cache brings an entry to the front that the smaller one did not have
        have hfind : t.find? k = some e := (Option.filter_eq_some_iff.1 hcurrent').1
        have hk : k ∉ s.keys := by
          intro hk
          obtain ⟨x, hx, rfl⟩ := mem_keys.1 hk
          have hsame : s.find? x.key = some x := hs.find?_key hx
          obtain rfl : x = e := Option.some.inj ((h.find?_eq ht hsame).symm.trans hfind)
          have heq : s.current now x.key = t.current now x.key := by
            rw [current, current, hsame, hfind, funext (h.isAged_eq now)]
          rw [hcurrent, hcurrent'] at heq
          cases heq
        have hlength := length_without_add ht (mem_keys.2 ⟨e, find?_eq_some hfind⟩)
        rw [without_of_not_mem hk, Option.toList_none, Option.toList_some, List.length_nil,
          List.length_singleton]
        show 1 + _ + s.capacity ≤ 0 + s.size + t.capacity
        omega

/-- An invalidation takes the entries of the same keys from both. -/
theorem removed (h : s.Inside t) (hs : s.Indexed) (ht : t.Indexed) {op : Op} {m n : Nat}
    (hm : (s.step op).2 = .removed m) (hn : (t.step op).2 = .removed n) :
    (s.step op).1.Inside (t.step op).1 := by
  have hroom := h.room
  have hgone : (t.entries.filter fun e => !op.covers e.key).length + s.size ≤
      (s.entries.filter fun e => !op.covers e.key).length + t.size :=
    length_filter_add_le h.entries _
  have hsettings : (t.step op).1.settings = (t.capacity, s.maxAge, s.epoch + 1) := by
    rw [settings_of_removed hn, h.maxAge, h.epoch]
  refine of_settings (settings_of_removed hm) hsettings ?_ ?_
  · rw [entries_of_removed hs hm, entries_of_removed ht hn]
    exact h.entries.filter _
  · rw [size, size, entries_of_removed hs hm, entries_of_removed ht hn]
    omega

-- through any limit at all, as in `Indexed.setMaxAgeMs`
theorem setMaxAge (h : s.Inside t) (maxAge : Nat) :
    ({ s with maxAge } : Tlb).Inside ({ t with maxAge } : Tlb) :=
  ⟨h.entries, h.room, rfl, h.epoch⟩

/-- Every operation but a resize keeps the smaller cache inside the larger. -/
theorem step (h : s.Inside t) (hs : s.Sound) (ht : t.Sound) {op : Op} (hop : op.resizes = false) :
    (s.step op).1.Inside (t.step op).1 := by
  cases op with
  | insert now e => exact h.insert hs ht now e
  | insertIfCurrent now e epoch =>
    show (s.insertIfCurrent now e epoch).1.Inside (t.insertIfCurrent now e epoch).1
    rw [insertIfCurrent, insertIfCurrent, h.epoch]
    split
    · exact h.insert hs ht now e
    · exact h
  | lookup now k => exact h.lookup hs.indexed ht.indexed now k
  | invalidateAll => exact h.removed hs.indexed ht.indexed rfl rfl
  | invalidateStream stream => exact h.removed hs.indexed ht.indexed rfl rfl
  | invalidatePasid stream pasid => exact h.removed hs.indexed ht.indexed rfl rfl
  | invalidateRange stream pasid range => exact h.removed hs.indexed ht.indexed rfl rfl
  | resize capacity => cases hop
  | setMaxAgeMs ms => exact h.setMaxAge _
  | resetStatistics => exact ⟨h.entries, h.room, h.maxAge, h.epoch⟩

/-- What is found in the smaller cache is found in the larger one. -/
theorem lookup_eq (h : s.Inside t) (ht : t.Indexed) {now : Nat} {k : TlbKey} {e : TlbEntry}
    (he : (s.lookup now k).2 = some e) : (t.lookup now k).2 = some e := by
  rw [answer_lookup, Option.filter_eq_some_iff] at he ⊢
  exact ⟨h.current_eq ht he.1, he.2⟩

end Inside

/-! ## Runs -/

/-- A lookup that returns an entry in the first answer returns it in the second. -/
def Answer.Hits (a b : Answer) : Prop := ∀ e, a = .found (some e) → b = .found (some e)

/-- What the smaller cache finds, the larger finds too. -/
theorem Inside.hits {s t : Tlb} (h : s.Inside t) (ht : t.Indexed) (op : Op) :
    (s.step op).2.Hits (t.step op).2 := by
  intro e he
  cases op with
  | lookup now k => exact congrArg Answer.found (h.lookup_eq ht (Answer.found.inj he))
  | _ => cases he

/-- A run without resizes keeps the inclusion, and every hit of the smaller is one of the larger. -/
theorem Inside.run {s t : Tlb} (h : s.Inside t) (hs : s.Sound) (ht : t.Sound) {ops : List Op}
    (hops : ∀ op ∈ ops, op.resizes = false) :
    (s.run ops).1.Inside (t.run ops).1 ∧ List.Forall₂ Answer.Hits (s.run ops).2 (t.run ops).2 := by
  induction ops generalizing s t with
  | nil => exact ⟨h, .nil⟩
  | cons op ops ih =>
    have hop := hops op List.mem_cons_self
    obtain ⟨hinside, hanswers⟩ := ih (h.step hs ht hop) (hs.step op) (ht.step op) fun op hmem =>
      hops op (List.mem_cons_of_mem _ hmem)
    exact ⟨hinside, .cons (h.hits ht.indexed op) hanswers⟩

/-- Two caches, one at least as large as the other, go through the same operations, none of which resizes
    them.  The entries of the smaller one are at every point among those of the larger one, in the order
    of recency, and each key that it holds has the same entry there.  So whatever the smaller one
    returned in the run, and whatever it would return now, the larger one returns. -/
theorem larger_never_loses {m n : Nat} (hle : m ≤ n) {ops : List Op}
    (hops : ∀ op ∈ ops, op.resizes = false) :
    let small := (ofCapacity m).run ops
    let large := (ofCapacity n).run ops
    small.1.entries.Sublist large.1.entries ∧
      (∀ k e, small.1.find? k = some e → large.1.find? k = some e) ∧
      List.Forall₂ Answer.Hits small.2 large.2 ∧
      ∀ now k e, (small.1.lookup now k).2 = some e → (large.1.lookup now k).2 = some e := by
  intro small large
  have hlarge : large.1.Indexed := ((sound_ofCapacity n).run ops).indexed
  obtain ⟨hinside, hanswers⟩ :=
    (inside_ofCapacity hle).run (sound_ofCapacity m) (sound_ofCapacity n) hops
  exact ⟨hinside.entries, fun _ _ => hinside.find?_eq hlarge, hanswers,
    fun _ _ _ => hinside.lookup_eq hlarge⟩

/-- Rooms for two and for three.  The smaller cache evicts the first page when the third comes; the larger
    one brings it to the front again, and so evicts the second page when the fourth comes.  Then a page
    is invalidated and one is found over age, in both. -/
theorem larger_never_loses_four_pages :
    let e (page : UInt64) : TlbEntry := .ofPage 1 0 page 0x8000 none .full .nonSecure
    let ops : List Op := [.setMaxAgeMs 1, .insert 0 (e 0x1000), .insert 1 (e 0x2000),
      .insert 2 (e 0x3000), .lookup 3 (e 0x1000).key, .insert 4 (e 0x4000),
      .invalidateRange 1 0 (.single 0x4000), .lookup 1000003 (e 0x3000).key,
      .insert 1000004 (e 0x4000), .lookup 1000005 (e 0x4000).key]
    let small := (ofCapacity 2).run ops
    let large := (ofCapacity 3).run ops
    2 ≤ 3 ∧ (∀ op ∈ ops, op.resizes = false) ∧
      small.1.keys = [(e 0x4000).key] ∧ large.1.keys = [(e 0x4000).key, (e 0x1000).key] ∧
      (small.1.hits, large.1.hits) = (1, 2) ∧ small.1.entries.Sublist large.1.entries ∧
      List.Forall₂ Answer.Hits small.2 large.2 := by
  intro e ops small large
  have hle : 2 ≤ 3 := by decide
  have hops : ∀ op ∈ ops, op.resizes = false := by decide
  obtain ⟨hentries, -, hanswers, -⟩ := larger_never_loses hle hops
  exact ⟨hle, hops, by decide +kernel, by decide +kernel, by decide +kernel, hentries, hanswers⟩

end Tlb

end Iommu
