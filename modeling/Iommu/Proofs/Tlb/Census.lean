/-
  The entries and the index of the translation cache agree at every point, and nothing leaves uncounted.

  `Sound t` is what the operations keep: no two entries share a key, the index lists the resident keys
  and has no empty part, and there are no more entries than the capacity, which is not zero.  A cache
  starts so, and each operation keeps it (`Sound.step`), whatever capacity it started with.

  Under it every removal is exact.  What an invalidation reads off the index is a list of distinct
  resident keys, so it takes away one entry for each of them (`size_filter_add`) and answers their
  number.  An insertion, a lookup and a resize change the size by what they admit and what they count as
  evicted (`size_step`).  Over a run the entries that were admitted are those resident, those removed
  and those evicted (`represented_run`).
-/
import Iommu.Proofs.Tlb.Room
import Iommu.Proofs.Tlb.Tidy

namespace Iommu.Tlb

/-! ## What an insertion and a lookup do -/

/-- An insertion replaces the entry of its key, adds one, or adds one and evicts the last. -/
theorem insert_cases {P : Tlb × Option TlbEntry → Prop} {t : Tlb} (hpos : 0 < t.capacity) {now : Nat}
    {e : TlbEntry}
    (replaced : e.key ∈ t.keys → P ({ t with
      entries := { e with timestamp := now } :: without e.key t.entries
      index := t.index.insert e.key }, none))
    (added : e.key ∉ t.keys → t.size < t.capacity → P ({ t with
      entries := { e with timestamp := now } :: t.entries
      index := t.index.insert e.key }, none))
    (evicted : ∀ old, e.key ∉ t.keys → t.capacity ≤ t.size → t.entries.getLast? = some old → P ({ t with
      entries := { e with timestamp := now } :: t.entries.dropLast
      index := (t.index.insert e.key).erase old.key
      evictions := t.evictions + 1 }, some old)) : P (t.insert now e) := by
  simp only [Tlb.insert]
  split
  · rename_i hc
    exact replaced (contains_iff.1 hc)
  · rename_i hc
    have hk : e.key ∉ t.keys := fun hk => hc (contains_iff.2 hk)
    split
    · rename_i hroom
      exact added hk hroom
    · rename_i hroom
      have hfull : t.capacity ≤ t.size := Nat.not_lt.1 hroom
      split
      · -- a full cache is not empty
        rename_i hnone
        have hempty : t.size = 0 := by rw [size, List.getLast?_eq_none_iff.1 hnone, List.length_nil]
        omega
      · rename_i old hold
        exact evicted old hk hfull hold

/-- A lookup misses, evicts an aged entry, or brings the entry to the front, which is a hit if it is
    valid. -/
theorem lookup_cases {P : Tlb × Option TlbEntry → Prop} {t : Tlb} {now : Nat} {k : TlbKey}
    (absent : k ∉ t.keys → P ({ t with misses := t.misses + 1 }, none))
    (aged : ∀ e ∈ t.entries, e.key = k → t.isAged now e = true → P ({ t with
      entries := without k t.entries
      index := t.index.erase k
      evictions := t.evictions + 1
      misses := t.misses + 1 }, none))
    (hit : ∀ e ∈ t.entries, e.key = k → t.isAged now e = false → e.valid = true → P ({ t with
      entries := e :: without k t.entries
      hits := t.hits + 1 }, some e))
    (invalid : ∀ e ∈ t.entries, e.key = k → t.isAged now e = false → e.valid = false → P ({ t with
      entries := e :: without k t.entries
      misses := t.misses + 1 }, none)) : P (t.lookup now k) := by
  rw [Tlb.lookup]
  cases hf : t.find? k with
  | none =>
    refine absent fun hk => ?_
    have hc := contains_iff.2 hk
    rw [Tlb.contains, hf] at hc
    cases hc
  | some e =>
    obtain ⟨he, hkey⟩ := find?_eq_some hf
    dsimp only
    split
    · rename_i ha
      exact aged e he hkey ha
    · rename_i ha
      have ha' : t.isAged now e = false := by simpa using ha
      split
      · rename_i hv
        exact hit e he hkey ha' hv
      · rename_i hv
        exact invalid e he hkey ha' (by simpa using hv)

/-! ## What the operations keep -/

/-- Keys are distinct and listed, the index has no empty part, and the capacity is respected. -/
structure Sound (t : Tlb) : Prop where
  indexed : t.Indexed
  tidy : t.index.Tidy
  room : t.Holds t.capacity

/-- A new cache is sound, whatever its capacity. -/
theorem sound_ofCapacity (capacity : Nat) : (ofCapacity capacity).Sound :=
  ⟨indexed_ofCapacity capacity, Index.tidy_empty,
    ⟨Nat.lt_of_lt_of_le Nat.one_pos (Nat.le_max_left 1 capacity), rfl, Nat.zero_le _⟩⟩

theorem Indexed.step {t : Tlb} (h : t.Indexed) (op : Op) : (t.step op).1.Indexed := by
  cases op with
  | insert now e => exact h.insert now e
  | insertIfCurrent now e epoch => exact h.insertIfCurrent now e epoch
  | lookup now k => exact h.lookup now k
  | invalidateAll => exact h.invalidateAll
  | invalidateStream stream => exact h.invalidateStream stream
  | invalidatePasid stream pasid => exact h.invalidatePasid stream pasid
  | invalidateRange stream pasid range => exact h.invalidateRange stream pasid range
  | resize capacity => exact h.resize capacity
  | setMaxAgeMs ms => exact h.setMaxAgeMs ms
  | resetStatistics => exact h.resetStatistics

theorem tidy_insert {t : Tlb} (h : t.index.Tidy) (now : Nat) (e : TlbEntry) :
    (t.insert now e).1.index.Tidy := by
  simp only [Tlb.insert]
  split
  · exact h.insert _
  · split
    · exact h.insert _
    · split
      · exact h.insert _
      · exact (h.insert _).erase _

theorem tidy_lookup {t : Tlb} (h : t.index.Tidy) (now : Nat) (k : TlbKey) :
    (t.lookup now k).1.index.Tidy := by
  rw [Tlb.lookup]
  split
  · exact h
  · split
    · exact h.erase k
    · split <;> exact h

-- through any limit at all, as in `Indexed.setMaxAgeMs`
theorem tidy_setMaxAge {t : Tlb} (h : t.index.Tidy) (maxAge : Nat) :
    ({ t with maxAge } : Tlb).index.Tidy := h

/-- No operation leaves an empty part in the index. -/
theorem tidy_step {t : Tlb} (h : t.index.Tidy) (op : Op) : (t.step op).1.index.Tidy := by
  cases op with
  | insert now e => exact tidy_insert h now e
  | insertIfCurrent now e epoch =>
    show (t.insertIfCurrent now e epoch).1.index.Tidy
    rw [Tlb.insertIfCurrent]
    split
    · exact tidy_insert h now e
    · exact h
  | lookup now k => exact tidy_lookup h now k
  | invalidateAll => exact Index.tidy_empty
  | invalidateStream stream => exact h.eraseStream stream
  | invalidatePasid stream pasid => exact h.eraseAll _
  | invalidateRange stream pasid range => exact h.eraseAll _
  | resize capacity => exact h.eraseAll _
  | setMaxAgeMs ms => exact tidy_setMaxAge h _
  | resetStatistics => exact h

/-- A resized cache fits its new capacity, which is not zero. -/
theorem room_resize (t : Tlb) (capacity : Nat) :
    (t.resize capacity).Holds (t.resize capacity).capacity :=
  ⟨Nat.lt_of_lt_of_le Nat.one_pos (Nat.le_max_left 1 capacity), rfl, List.length_take_le ..⟩

/-- Every operation ends within the capacity it ends with. -/
theorem room_step {t : Tlb} (h : t.Holds t.capacity) (op : Op) :
    (t.step op).1.Holds (t.step op).1.capacity := by
  cases hop : op.resizes with
  | false =>
    have hstep := h.step op hop
    rwa [hstep.capacity]
  | true =>
    cases op with
    | resize capacity => exact room_resize t capacity
    | _ => cases hop

/-- Every operation keeps the cache sound. -/
theorem Sound.step {t : Tlb} (h : t.Sound) (op : Op) : (t.step op).1.Sound :=
  ⟨h.indexed.step op, tidy_step h.tidy op, room_step h.room op⟩

/-- What every operation keeps, a run keeps. -/
theorem run_preserves {P : Tlb → Prop} (hstep : ∀ t op, P t → P (t.step op).1) {t : Tlb} (ht : P t)
    (ops : List Op) : P (t.run ops).1 := by
  induction ops generalizing t with
  | nil => exact ht
  | cons op ops ih => exact ih (hstep t op ht)

/-- Every run keeps the cache sound. -/
theorem Sound.run {t : Tlb} (h : t.Sound) (ops : List Op) : (t.run ops).1.Sound :=
  run_preserves (fun _ op ht => ht.step op) h ops

/-! ## Sizes -/

/-- An entry is found under its own key. -/
theorem Indexed.find?_key {t : Tlb} (h : t.Indexed) {e : TlbEntry} (he : e ∈ t.entries) :
    t.find? e.key = some e := by
  cases hf : t.find? e.key with
  | none =>
    rw [Tlb.find?, List.find?_eq_none] at hf
    exact absurd (decide_eq_true rfl) (hf e he)
  | some x =>
    obtain ⟨hx, hkey⟩ := find?_eq_some hf
    exact congrArg some (List.inj_on_of_nodup_map h.distinct hx he hkey)

/-- The entries of distinct resident keys are as many as the keys. -/
theorem size_filter_add {t : Tlb} (h : t.Indexed) {gone : List TlbKey} (hgone : gone.Nodup)
    (hin : ∀ k ∈ gone, k ∈ t.keys) :
    (t.entries.filter fun e => !gone.contains e.key).length + gone.length = t.size := by
  have hperm : gone.Perm (t.keys.filter gone.contains) := by
    rw [List.perm_ext_iff_of_nodup hgone (h.distinct.filter _)]
    intro k
    rw [List.mem_filter, List.contains_iff_mem]
    exact ⟨fun hk => ⟨hin k hk, hk⟩, And.right⟩
  have hlength : gone.length = (t.entries.filter fun e => gone.contains e.key).length := by
    rw [hperm.length_eq, keys, List.filter_map, List.length_map]
    rfl
  rw [hlength, Nat.add_comm, size]
  exact (List.length_eq_length_filter_add fun e : TlbEntry => gone.contains e.key).symm

/-- Taking out a resident key makes the cache one smaller. -/
theorem length_without_add {t : Tlb} (h : t.Indexed) {k : TlbKey} (hk : k ∈ t.keys) :
    (without k t.entries).length + 1 = t.size := by
  rw [← size_filter_add h (List.nodup_singleton k) fun k' hk' => List.mem_singleton.1 hk' ▸ hk,
    without]
  congr 2
  refine List.filter_congr fun e _ => ?_
  by_cases he : e.key = k <;> simp [he]

/-- The number of entries of a stream is read off the index. -/
theorem Indexed.countStream_eq {t : Tlb} (h : t.Indexed) (s : StreamId) :
    t.countStream s = t.entries.countP fun e => e.stream = s := by
  rw [Tlb.countStream, h.listed.countStream_eq h.distinct, keys, List.countP_map]
  rfl

/-- Keys of new entries that an operation takes in. -/
def admits (t : Tlb) : Op → Nat
  | .insert _ e => (!t.contains e.key).toNat
  | .insertIfCurrent _ e epoch => (t.epoch = epoch && !t.contains e.key).toNat
  | _ => 0

/-- Entries that an operation answers to have removed. -/
def removes (t : Tlb) (op : Op) : Nat :=
  match (t.step op).2 with
  | .removed n => n
  | _ => 0

/-- An insertion makes the cache larger by the entry it takes in, and smaller by the one it evicts. -/
theorem size_insert {t : Tlb} (h : t.Sound) (now : Nat) (e : TlbEntry) :
    (t.insert now e).1.size + (t.insert now e).1.evictions =
      t.size + t.evictions + (!t.contains e.key).toNat := by
  have habsent : e.key ∉ t.keys → t.contains e.key = false := fun hk => by
    rw [← Bool.not_eq_true, contains_iff]
    exact hk
  refine insert_cases (P := fun x => x.1.size + x.1.evictions =
    t.size + t.evictions + (!t.contains e.key).toNat) h.room.positive ?_ ?_ ?_
  · intro hk
    have hlength := length_without_add h.indexed hk
    rw [contains_iff.2 hk]
    show (without e.key t.entries).length + 1 + t.evictions = t.size + t.evictions
    rw [hlength]
  · intro hk _
    rw [habsent hk]
    show t.entries.length + 1 + t.evictions = t.entries.length + t.evictions + 1
    omega
  · intro old hk hfull _
    have hpos : 0 < t.entries.length := Nat.lt_of_lt_of_le h.room.positive hfull
    rw [habsent hk]
    show t.entries.dropLast.length + 1 + (t.evictions + 1) = t.entries.length + t.evictions + 1
    rw [List.length_dropLast]
    omega

/-- A lookup takes an entry away only where it counts one as evicted. -/
theorem size_lookup {t : Tlb} (h : t.Indexed) (now : Nat) (k : TlbKey) :
    (t.lookup now k).1.size + (t.lookup now k).1.evictions = t.size + t.evictions := by
  have hlength : ∀ e ∈ t.entries, e.key = k → (without k t.entries).length + 1 = t.size :=
    fun e he hkey => length_without_add h (mem_keys.2 ⟨e, he, hkey⟩)
  refine lookup_cases (P := fun x => x.1.size + x.1.evictions = t.size + t.evictions) ?_ ?_ ?_ ?_
  · exact fun _ => rfl
  · intro e he hkey _
    show (without k t.entries).length + (t.evictions + 1) = t.size + t.evictions
    rw [← hlength e he hkey]
    omega
  · intro e he hkey _ _
    exact congrArg (· + t.evictions) (hlength e he hkey)
  · intro e he hkey _ _
    exact congrArg (· + t.evictions) (hlength e he hkey)

/-- Resizing counts each entry that it drops as an eviction. -/
theorem size_resize (t : Tlb) (capacity : Nat) :
    (t.resize capacity).size + (t.resize capacity).evictions = t.size + t.evictions := by
  show (t.entries.take _).length + (t.evictions + (t.entries.drop _).length) =
    t.entries.length + t.evictions
  rw [List.length_take, List.length_drop]
  omega

/-- What an invalidation answers is the number of entries that it removes. -/
theorem size_add_removed {t : Tlb} (h : t.Indexed) {op : Op} {n : Nat}
    (hn : (t.step op).2 = .removed n) : (t.step op).1.size + n = t.size := by
  cases op with
  | invalidateAll =>
    obtain rfl : t.size = n := Answer.removed.inj hn
    exact Nat.zero_add _
  | invalidateStream stream =>
    obtain rfl : (t.index.streamKeys stream).length = n := Answer.removed.inj hn
    exact size_filter_add h (h.listed.nodup_streamKeys stream) fun k hk =>
      (h.listed.mem_streamKeys_iff.1 hk).1
  | invalidatePasid stream pasid =>
    obtain rfl : (t.index.pasidKeys stream pasid).length = n := Answer.removed.inj hn
    exact size_filter_add h (h.listed.nodup stream pasid) fun k hk =>
      ((h.listed.mem_iff stream pasid k).1 hk).1
  | invalidateRange stream pasid range =>
    obtain rfl : ((t.index.pasidKeys stream pasid).filter fun k => range.selects k.page).length = n :=
      Answer.removed.inj hn
    exact size_filter_add h ((h.listed.nodup stream pasid).filter _) fun k hk =>
      ((h.listed.mem_iff stream pasid k).1 (List.mem_of_mem_filter hk)).1
  | _ => cases hn

/-- Invalidations count no eviction. -/
theorem evictions_of_removed {t : Tlb} {op : Op} {n : Nat} (hn : (t.step op).2 = .removed n) :
    (t.step op).1.evictions = t.evictions := by
  cases op with
  | invalidateAll => rfl
  | invalidateStream stream => rfl
  | invalidatePasid stream pasid => rfl
  | invalidateRange stream pasid range => rfl
  | _ => cases hn

/-- The books of one operation: what was resident and what it takes in are what is resident after it,
    what it removes and what it evicts. -/
theorem size_step {t : Tlb} (h : t.Sound) {op : Op} (hop : op ≠ .resetStatistics) :
    (t.step op).1.size + t.removes op + (t.step op).1.evictions =
      t.size + t.evictions + t.admits op := by
  have hremoved : ∀ n, (t.step op).2 = .removed n → t.admits op = 0 →
      (t.step op).1.size + t.removes op + (t.step op).1.evictions =
        t.size + t.evictions + t.admits op := by
    intro n hn hadmits
    have hsize := size_add_removed h.indexed hn
    have hremoves : t.removes op = n := by rw [removes, hn]
    rw [hremoves, hadmits, evictions_of_removed hn]
    omega
  cases op with
  | insert now e => exact size_insert h now e
  | insertIfCurrent now e epoch =>
    show (t.insertIfCurrent now e epoch).1.size + 0 + (t.insertIfCurrent now e epoch).1.evictions =
      t.size + t.evictions + (t.epoch = epoch && !t.contains e.key).toNat
    rw [Tlb.insertIfCurrent]
    split
    · rename_i hcurrent
      rw [decide_eq_true hcurrent, Bool.true_and]
      exact size_insert h now e
    · rename_i hstale
      rw [decide_eq_false hstale, Bool.false_and]
      rfl
  | lookup now k => exact size_lookup h.indexed now k
  | resize capacity => exact size_resize t capacity
  | setMaxAgeMs ms => rfl
  | resetStatistics => exact absurd rfl hop
  | _ => exact hremoved _ rfl rfl

/-! ## Runs -/

/-- What the operations of a run contribute to a number, each in the cache that it finds. -/
def total (f : Tlb → Op → Nat) (t : Tlb) : List Op → Nat
  | [] => 0
  | op :: ops => f t op + total f (t.step op).1 ops

/-- The books of a run. -/
theorem size_run {t : Tlb} (h : t.Sound) {ops : List Op} (hops : .resetStatistics ∉ ops) :
    (t.run ops).1.size + total removes t ops + (t.run ops).1.evictions =
      t.size + t.evictions + total admits t ops := by
  induction ops generalizing t with
  | nil => rfl
  | cons op ops ih =>
    rw [List.mem_cons, not_or] at hops
    have hstep := size_step h (Ne.symm hops.1)
    have hrest := ih (h.step op) hops.2
    rw [total, total]
    show ((t.step op).1.run ops).1.size + _ + ((t.step op).1.run ops).1.evictions = _
    omega

/-- How the cache is represented. -/
structure Represented (t : Tlb) : Prop where
  /-- A resident entry is found under its own key, which names a page. -/
  own : ∀ e ∈ t.entries, t.find? e.key = some e ∧ pageBase e.key.page = e.key.page
  distinct : t.keys.Nodup
  positive : 0 < t.capacity
  fits : t.size ≤ t.capacity
  /-- The index lists the resident keys, each once and under its own stream and PASID. -/
  listed : t.index.Listed t.keys
  /-- It lists no stream without a PASID and no PASID without a key. -/
  tidy : t.index.Tidy
  counted : ∀ s, t.countStream s = t.entries.countP fun e => e.stream = s
  /-- An invalidation answers the number of entries that it removes. -/
  removed : ∀ op n, (t.step op).2 = .removed n → (t.step op).1.size + n = t.size

/-- A sound cache is represented by its entries. -/
theorem Sound.represented {t : Tlb} (h : t.Sound) : t.Represented where
  own _ he := ⟨h.indexed.find?_key he, pageBase_pageBase _⟩
  distinct := h.indexed.distinct
  positive := h.room.positive
  fits := h.room.size
  listed := h.indexed.listed
  tidy := h.tidy
  counted := h.indexed.countStream_eq
  removed _ _ := size_add_removed h.indexed

/-- After any operations on a new cache its entries and its index agree; and unless its counters were
    reset, every new key it took in is resident, was removed by an invalidation or was evicted. -/
theorem represented_run (capacity : Nat) (ops : List Op) :
    ((ofCapacity capacity).run ops).1.Represented ∧
      (.resetStatistics ∉ ops → total admits (ofCapacity capacity) ops =
        ((ofCapacity capacity).run ops).1.size + total removes (ofCapacity capacity) ops +
          ((ofCapacity capacity).run ops).1.evictions) := by
  have hsound := sound_ofCapacity capacity
  refine ⟨(hsound.run ops).represented, fun hops => ?_⟩
  have hbooks := size_run hsound hops
  have hempty : (ofCapacity capacity).size + (ofCapacity capacity).evictions = 0 := rfl
  omega

/-- Six pages of one PASID pass through a cache with room for two.  One is replaced, one is displaced, one
    is too old when it is looked up, two are invalidated together, and one goes when the cache
    shrinks. -/
theorem represented_run_six_pages :
    let e (page : UInt64) : TlbEntry := .ofPage 1 0 page 0x8000 none .full .nonSecure
    let ops : List Op := [.setMaxAgeMs 1, .insert 0 (e 0x1000), .insert 1 (e 0x2000),
      .insert 2 (e 0x2000), .insert 3 (e 0x3000), .insertIfCurrent 4 (e 0x4000) 7,
      .lookup 2000000 (e 0x2000).key, .insertIfCurrent 2000000 (e 0x4000) 0,
      .invalidateRange 1 0 (.single 0x1000), .invalidatePasid 1 0, .insert 2000000 (e 0x5000),
      .insert 2000000 (e 0x6000), .resize 1]
    let t := ((ofCapacity 2).run ops).1
    .resetStatistics ∉ ops ∧ t.keys = [(e 0x6000).key] ∧ t.countStream 1 = 1 ∧
      total removes (ofCapacity 2) ops = 2 ∧ t.evictions = 3 ∧ t.Represented ∧
      total admits (ofCapacity 2) ops = t.size + total removes (ofCapacity 2) ops + t.evictions := by
  intro e ops t
  have hops : .resetStatistics ∉ ops := by decide
  obtain ⟨hrepresented, hbooks⟩ := represented_run 2 ops
  exact ⟨hops, by decide +kernel, by decide +kernel, by decide +kernel, by decide +kernel, hrepresented,
    hbooks hops⟩

end Iommu.Tlb
