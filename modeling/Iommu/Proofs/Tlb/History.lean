/-
  What a lookup answers, told from the history of the cache.

  `history t ops` is the run as a list of moments, each an operation with the cache that it finds.  Two
  facts tell what a lookup of a key answers.

  * Soundness.  A resident entry is the one stored last for its key, and no invalidation of the key came
    after it (`Traced`, kept by every operation): entries are brought by insertions alone, and every
    insertion and invalidation takes away what it makes obsolete (`origin_step`).
  * Retention.  An entry is brought to the front when it is stored, and when it is looked up while
    resident.  From then on the entries in front of it are of keys touched since (`Near`).  It can only
    be evicted from the last place of a full cache, and that takes as many other keys as the cache has
    room for, the evicting one included (`Near.insert`).

  For retention it matters that the key was resident when it was last looked up.  A lookup that misses
  touches nothing and brings nothing back (`not_retained_by_missed_lookup`).
-/
import Mathlib.Data.List.Dedup
import Iommu.Proofs.Tlb.Census

namespace Iommu.Tlb

/-! ## Moments -/

/-- An operation of a run, and the cache that it finds. -/
structure Moment where
  cache : Tlb
  op : Op
deriving DecidableEq

/-- The moments of a run. -/
def history (t : Tlb) : List Op → List Moment
  | [] => []
  | op :: ops => ⟨t, op⟩ :: (t.step op).1.history ops

/-- Whether an operation is an invalidation that covers a key. -/
def Op.covers : Op → TlbKey → Bool
  | .invalidateAll, _ => true
  | .invalidateStream stream, k => k.stream = stream
  | .invalidatePasid stream pasid, k => k.stream = stream && k.pasid = pasid
  | .invalidateRange stream pasid range, k =>
    k.stream = stream && k.pasid = pasid && range.selects k.page
  | _, _ => false

namespace Moment

/-- The entry that is stored, if the operation is an insertion that is accepted. -/
def stored (m : Moment) : Option TlbEntry :=
  match m.op with
  | .insert now e => some { e with timestamp := now }
  | .insertIfCurrent now e epoch =>
    if m.cache.epoch = epoch then some { e with timestamp := now } else none
  | _ => none

/-- Whether an entry is stored for a key. -/
def stores (m : Moment) (k : TlbKey) : Bool := m.stored.any fun e => e.key = k

/-- Whether a key is looked up. -/
def seeks (m : Moment) (k : TlbKey) : Bool :=
  match m.op with
  | .lookup _ k' => k' = k
  | _ => false

/-- Whether a key is looked up and its entry found over age. -/
def expires (m : Moment) (k : TlbKey) : Bool :=
  match m.op with
  | .lookup now k' => k' = k && (m.cache.find? k).any (m.cache.isAged now)
  | _ => false

/-- The key that an entry is stored for, or that is looked up while resident. -/
def touched (m : Moment) : Option TlbKey :=
  match m.op with
  | .lookup _ k => if m.cache.contains k then some k else none
  | _ => m.stored.map TlbEntry.key

end Moment

/-- The entry was stored for the key at a moment of the history, and none was since. -/
structure Latest (h : List Moment) (k : TlbKey) (e : TlbEntry) (m : Moment) (since : List Moment) :
    Prop where
  split : ∃ before, h = before ++ m :: since
  stored : m.stored = some e
  key : e.key = k
  last : ∀ x ∈ since, x.stores k = false

/-- The distinct keys other than `k` that are touched. -/
def others (k : TlbKey) (h : List Moment) : List TlbKey :=
  ((h.filterMap Moment.touched).filter fun k' => k' ≠ k).dedup

/-- Nothing removed a valid entry since it was stored, it is not over age, and fewer other keys than the
    cache has room for were touched since one of the moments from then on. -/
structure Retains (t : Tlb) (now : Nat) (k : TlbKey) (e : TlbEntry) (m : Moment)
    (since : List Moment) (last : Moment) (after : List Moment) : Prop where
  valid : e.valid = true
  uncovered : ∀ x ∈ since, x.op.covers k = false
  unexpired : ∀ x ∈ since, x.expires k = false
  current : t.isAged now e = false
  capacity : ∀ x ∈ since, x.cache.capacity = t.capacity
  suffix : last :: after <:+ m :: since
  few : (others k after).length < t.capacity

/-! ## Where entries come from -/

theorem Moment.stores_eq_false {m : Moment} {k : TlbKey} :
    m.stores k = false ↔ ∀ e, m.stored = some e → e.key ≠ k := by
  rw [Moment.stores]
  cases m.stored with
  | none => exact ⟨fun _ => nofun, fun _ => rfl⟩
  | some e => simp

/-- A key is touched by storing an entry for it, or by looking it up while resident. -/
theorem Moment.touched_cases {m : Moment} {k : TlbKey} (h : m.touched = some k) :
    m.stores k = true ∨ ∃ now, m.op = .lookup now k ∧ k ∈ m.cache.keys := by
  obtain ⟨t, op⟩ := m
  have hstores : (Moment.mk t op).stored.map TlbEntry.key = some k →
      (Moment.mk t op).stores k = true := by
    intro hmap
    obtain ⟨e, hstored, rfl⟩ := Option.map_eq_some_iff.1 hmap
    simp [Moment.stores, hstored]
  cases op with
  | lookup now k' =>
    simp only [Moment.touched] at h
    split at h
    · rename_i hc
      cases h
      exact Or.inr ⟨now, rfl, contains_iff.1 hc⟩
    · cases h
  | insert now e => exact Or.inl (hstores h)
  | insertIfCurrent now e epoch => exact Or.inl (hstores h)
  | _ => cases h

theorem covers_invalidatePasid {stream : StreamId} {pasid : Pasid} {e : TlbEntry} :
    (Op.invalidatePasid stream pasid).covers e.key = true ↔ e.stream = stream ∧ e.pasid = pasid := by
  rw [Op.covers, Bool.and_eq_true, decide_eq_true_eq, decide_eq_true_eq]
  rfl

theorem covers_invalidateRange {stream : StreamId} {pasid : Pasid} {range : PageRange} {e : TlbEntry} :
    (Op.invalidateRange stream pasid range).covers e.key = true ↔
      e.stream = stream ∧ e.pasid = pasid ∧ range.selects e.page = true := by
  rw [Op.covers, Bool.and_eq_true, Bool.and_eq_true, decide_eq_true_eq, decide_eq_true_eq, and_assoc,
    ← PageRange.selects_pageBase range e.page]
  rfl

/-- An invalidation takes away exactly the entries of the keys that it covers, and leaves the others as
    they stand. -/
theorem entries_of_removed {t : Tlb} (h : t.Indexed) {op : Op} {n : Nat}
    (hn : (t.step op).2 = .removed n) :
    (t.step op).1.entries = t.entries.filter fun e => !op.covers e.key := by
  -- each is a filter of the entries, so it is enough to say which of them are left
  have hfilter : ∀ p : TlbEntry → Bool, (t.step op).1.entries = t.entries.filter p →
      (∀ e ∈ t.entries, e ∈ (t.step op).1.entries ↔ ¬op.covers e.key = true) →
      (t.step op).1.entries = t.entries.filter fun e => !op.covers e.key := by
    intro p hentries hmem
    rw [hentries]
    refine List.filter_congr fun e he => ?_
    rw [Bool.eq_iff_iff, Bool.not_eq_true', ← Bool.not_eq_true, ← hmem e he, hentries,
      List.mem_filter, and_iff_right he]
  cases op with
  | invalidateAll => exact (List.filter_eq_nil_iff.2 fun _ _ => Bool.false_ne_true).symm
  | invalidateStream stream =>
    refine hfilter _ rfl fun e he => (mem_invalidateStream h).trans ?_
    rw [and_iff_right he, Op.covers, decide_eq_true_eq]
    rfl
  | invalidatePasid stream pasid =>
    refine hfilter _ rfl fun e he => (mem_invalidatePasid h).trans ?_
    rw [and_iff_right he, covers_invalidatePasid]
  | invalidateRange stream pasid range =>
    refine hfilter _ rfl fun e he => (mem_invalidateRange h).trans ?_
    rw [and_iff_right he, covers_invalidateRange]
  | _ => cases hn

/-- An entry that is stored is in front afterwards. -/
theorem Moment.entries_of_stored {m : Moment} {e : TlbEntry} (hpos : 0 < m.cache.capacity)
    (h : m.stored = some e) : ∃ older, (m.cache.step m.op).1.entries = e :: older := by
  obtain ⟨t, op⟩ := m
  have hinsert : ∀ now x, ∃ older,
      (t.insert now x).1.entries = { x with timestamp := now } :: older := by
    intro now x
    refine insert_cases (P := fun r => ∃ older, r.1.entries = { x with timestamp := now } :: older)
      hpos (fun _ => ⟨_, rfl⟩) (fun _ _ => ⟨_, rfl⟩) fun _ _ _ _ => ⟨_, rfl⟩
  cases op with
  | insert now x =>
    cases h
    exact hinsert now x
  | insertIfCurrent now x epoch =>
    rw [Moment.stored] at h
    dsimp only at h
    split at h
    · rename_i hepoch
      cases h
      simpa only [step, insertIfCurrent, if_pos hepoch] using hinsert now x
    · cases h
  | _ => cases h

/-- An entry after an operation has just been stored, or was there before and neither an insertion nor an
    invalidation was about its key. -/
theorem origin_step {t : Tlb} (h : t.Indexed) {op : Op} {e : TlbEntry}
    (he : e ∈ (t.step op).1.entries) :
    (Moment.mk t op).stored = some e ∨
      e ∈ t.entries ∧ (Moment.mk t op).stores e.key = false ∧ op.covers e.key = false := by
  cases op with
  | insert now x =>
    obtain rfl | ⟨hold, hne⟩ := mem_insert he
    · exact Or.inl rfl
    · refine Or.inr ⟨hold, Moment.stores_eq_false.2 fun y hy => ?_, rfl⟩
      cases hy
      exact Ne.symm hne
  | insertIfCurrent now x epoch =>
    by_cases hepoch : t.epoch = epoch
    · have hstored : (Moment.mk t (.insertIfCurrent now x epoch)).stored =
          some { x with timestamp := now } := if_pos hepoch
      simp only [step, insertIfCurrent, if_pos hepoch] at he
      obtain rfl | ⟨hold, hne⟩ := mem_insert he
      · exact Or.inl hstored
      · refine Or.inr ⟨hold, Moment.stores_eq_false.2 fun y hy => ?_, rfl⟩
        rw [hstored] at hy
        cases hy
        exact Ne.symm hne
    · have hstored : (Moment.mk t (.insertIfCurrent now x epoch)).stored = none := if_neg hepoch
      simp only [step, insertIfCurrent, if_neg hepoch] at he
      refine Or.inr ⟨he, Moment.stores_eq_false.2 fun y hy => ?_, rfl⟩
      rw [hstored] at hy
      cases hy
  | lookup now k => exact Or.inr ⟨mem_lookup he, rfl, rfl⟩
  | invalidateAll => cases he
  | invalidateStream stream =>
    obtain ⟨hold, hne⟩ := (mem_invalidateStream h).1 he
    exact Or.inr ⟨hold, rfl, decide_eq_false hne⟩
  | invalidatePasid stream pasid =>
    obtain ⟨hold, hne⟩ := (mem_invalidatePasid h).1 he
    exact Or.inr ⟨hold, rfl, Bool.eq_false_iff.2 fun hc => hne (covers_invalidatePasid.1 hc)⟩
  | invalidateRange stream pasid range =>
    obtain ⟨hold, hne⟩ := (mem_invalidateRange h).1 he
    exact Or.inr ⟨hold, rfl, Bool.eq_false_iff.2 fun hc => hne (covers_invalidateRange.1 hc)⟩
  | resize capacity => exact Or.inr ⟨mem_resize he, rfl, rfl⟩
  | setMaxAgeMs ms => exact Or.inr ⟨mem_setMaxAge he, rfl, rfl⟩
  | resetStatistics => exact Or.inr ⟨he, rfl, rfl⟩

/-! ## Soundness -/

namespace Latest

variable {h : List Moment} {k : TlbKey} {e e' : TlbEntry} {m m' : Moment} {since since' : List Moment}

/-- What is stored now is the latest. -/
theorem now (hm : m.stored = some e) : Latest (h ++ [m]) e.key e m [] :=
  ⟨⟨h, rfl⟩, hm, rfl, nofun⟩

/-- It stays the latest until another entry is stored for the key. -/
theorem snoc (hl : Latest h k e m since) {x : Moment} (hx : x.stores k = false) :
    Latest (h ++ [x]) k e m (since ++ [x]) := by
  obtain ⟨before, hsplit⟩ := hl.split
  refine ⟨⟨before, by rw [hsplit, List.append_assoc, List.cons_append]⟩, hl.stored, hl.key,
    fun y hy => ?_⟩
  obtain hy | hy := List.mem_append.1 hy
  · exact hl.last y hy
  · rwa [List.mem_singleton.1 hy]

/-- A history has one latest entry of a key. -/
theorem unique (hl : Latest h k e m since) (hl' : Latest h k e' m' since') : e = e' := by
  obtain ⟨before, hsplit⟩ := hl.split
  obtain ⟨before', hsplit'⟩ := hl'.split
  have hm : m.stores k = true := by simp [Moment.stores, hl.stored, hl.key]
  have hm' : m'.stores k = true := by simp [Moment.stores, hl'.stored, hl'.key]
  -- of two moments that store for the key the earlier is not the last
  obtain ⟨mid, -, hmid⟩ | ⟨mid, -, hmid⟩ := List.append_eq_append_iff.1 (hsplit.symm.trans hsplit')
  · cases mid with
    | nil =>
      cases hmid
      exact Option.some.inj (hl.stored.symm.trans hl'.stored)
    | cons y mid =>
      cases hmid
      have hfalse := hl.last m' (List.mem_append_right mid List.mem_cons_self)
      rw [hm'] at hfalse
      cases hfalse
  · cases mid with
    | nil =>
      cases hmid
      exact Option.some.inj (hl.stored.symm.trans hl'.stored)
    | cons y mid =>
      cases hmid
      have hfalse := hl'.last m (List.mem_append_right mid List.mem_cons_self)
      rw [hm] at hfalse
      cases hfalse

end Latest

/-- Every resident entry is the one stored last for its key, and was not covered by an invalidation
    since. -/
def Traced (h : List Moment) (t : Tlb) : Prop :=
  ∀ e ∈ t.entries, ∃ m since, Latest h e.key e m since ∧ ∀ x ∈ since, x.op.covers e.key = false

/-- A step adds its own moment to the history that explains the cache. -/
theorem Traced.step {h : List Moment} {t : Tlb} (ht : Traced h t) (hindexed : t.Indexed) (op : Op) :
    Traced (h ++ [⟨t, op⟩]) (t.step op).1 := by
  intro e he
  obtain hnew | ⟨hold, hstores, hcovers⟩ := origin_step hindexed he
  · exact ⟨⟨t, op⟩, [], .now hnew, nofun⟩
  · obtain ⟨m, since, hlatest, hsince⟩ := ht e hold
    refine ⟨m, since ++ [⟨t, op⟩], hlatest.snoc hstores, fun x hx => ?_⟩
    obtain hx | hx := List.mem_append.1 hx
    · exact hsince x hx
    · rwa [List.mem_singleton.1 hx]

/-- A run adds its history to the one that explains the cache. -/
theorem Traced.run {h : List Moment} {t : Tlb} (ht : Traced h t) (hindexed : t.Indexed)
    (ops : List Op) : Traced (h ++ t.history ops) (t.run ops).1 := by
  induction ops generalizing h t with
  | nil =>
    rw [history, List.append_nil]
    exact ht
  | cons op ops ih =>
    have hrun := ih (ht.step hindexed op) (hindexed.step op)
    rwa [List.append_assoc, List.singleton_append] at hrun

/-- On a new cache the history of a run tells where every entry is from. -/
theorem traced_run (capacity : Nat) (ops : List Op) :
    Traced ((ofCapacity capacity).history ops) ((ofCapacity capacity).run ops).1 :=
  have hnew : Traced [] (ofCapacity capacity) := fun _ he => absurd he List.not_mem_nil
  hnew.run (indexed_ofCapacity capacity) ops

/-- What a lookup returns is resident, valid and within the age limit. -/
theorem lookup_current {t : Tlb} {now : Nat} {k : TlbKey} {e : TlbEntry}
    (h : (t.lookup now k).2 = some e) :
    e ∈ t.entries ∧ e.key = k ∧ e.valid = true ∧ t.isAged now e = false := by
  revert h
  refine lookup_cases (P := fun r => r.2 = some e →
    e ∈ t.entries ∧ e.key = k ∧ e.valid = true ∧ t.isAged now e = false) ?_ ?_ ?_ ?_
  · exact fun _ => nofun
  · exact fun _ _ _ _ => nofun
  · rintro x hx hkey haged hvalid ⟨⟩
    exact ⟨hx, hkey, hvalid, haged⟩
  · exact fun _ _ _ _ _ => nofun

theorem isAged_eq_false {t : Tlb} {now : Nat} {e : TlbEntry} :
    t.isAged now e = false ↔ t.maxAge = 0 ∨ now - e.timestamp ≤ t.maxAge := by
  simp [isAged]
  omega

/-! ## Retention -/

/-- An entry that is looked up while resident and within the age limit is in front afterwards. -/
theorem lookup_front {t : Tlb} (h : t.Indexed) {now : Nat} {e : TlbEntry} (he : e ∈ t.entries)
    (hcurrent : t.isAged now e = false) :
    (t.lookup now e.key).1.entries = e :: without e.key t.entries := by
  simp only [Tlb.lookup, h.find?_key he, hcurrent, Bool.false_eq_true, if_false]
  split <;> rfl

/-- A resident entry that is valid and within the age limit is found. -/
theorem lookup_found {t : Tlb} (h : t.Indexed) {now : Nat} {e : TlbEntry} (he : e ∈ t.entries)
    (hvalid : e.valid = true) (hcurrent : t.isAged now e = false) :
    (t.lookup now e.key).2 = some e := by
  simp only [Tlb.lookup, h.find?_key he, hcurrent, hvalid, Bool.false_eq_true, if_false, if_true]

/-- The entry is resident, and those in front of it are of keys in `s`. -/
def Near (t : Tlb) (e : TlbEntry) (s : List TlbKey) : Prop :=
  ∃ newer older, t.entries = newer ++ e :: older ∧ ∀ x ∈ newer, x.key ∈ s

namespace Near

variable {t t' : Tlb} {e : TlbEntry} {s : List TlbKey}

/-- An entry near the front is resident. -/
theorem mem (h : t.Near e s) : e ∈ t.entries := by
  obtain ⟨newer, older, hsplit, -⟩ := h
  rw [hsplit]
  exact List.mem_append_right newer List.mem_cons_self

/-- Taking away entries in front of it or behind it. -/
theorem filter (h : t.Near e s) {p : TlbEntry → Bool} (hp : p e = true)
    (hentries : t'.entries = t.entries.filter p) : t'.Near e s := by
  obtain ⟨newer, older, hsplit, hnewer⟩ := h
  refine ⟨newer.filter p, older.filter p, ?_, fun x hx => hnewer x (List.mem_of_mem_filter hx)⟩
  rw [hentries, hsplit, List.filter_append, List.filter_cons_of_pos hp]

/-- Putting an entry of one of the keys in front. -/
theorem cons (h : t.Near e s) {x : TlbEntry} (hx : x.key ∈ s) (hentries : t'.entries = x :: t.entries) :
    t'.Near e s := by
  obtain ⟨newer, older, hsplit, hnewer⟩ := h
  refine ⟨x :: newer, older, ?_, fun y hy => ?_⟩
  · rw [hentries, hsplit, List.cons_append]
  · obtain rfl | hy := List.mem_cons.1 hy
    · exact hx
    · exact hnewer y hy

/-- Bringing an entry of one of the keys to the front, or replacing it. -/
theorem front (h : t.Near e s) {x : TlbEntry} (hx : x.key ∈ s) (hne : x.key ≠ e.key)
    (hentries : t'.entries = x :: without x.key t.entries) : t'.Near e s := by
  have hrest : Near { t with entries := without x.key t.entries } e s :=
    h.filter (decide_eq_true (Ne.symm hne)) rfl
  exact hrest.cons hx hentries

/-- Only the last entry of a full cache is evicted, and `s` is too short to fill the cache in front of
    it. -/
theorem insert (h : t.Near e s) (hsound : t.Sound) (hfew : s.length < t.capacity) (now : Nat)
    {x : TlbEntry} (hx : x.key ∈ s) (hne : x.key ≠ e.key) : (t.insert now x).1.Near e s := by
  refine insert_cases (P := fun r => r.1.Near e s) hsound.room.positive ?_ ?_ ?_
  · exact fun _ => h.front (x := { x with timestamp := now }) hx hne rfl
  · exact fun _ _ => h.cons (x := { x with timestamp := now }) hx rfl
  · intro old hnew hfull _
    obtain ⟨newer, older, hsplit, hnewer⟩ := h
    have hsize : newer.length + (older.length + 1) = t.size := by
      rw [size, hsplit, List.length_append, List.length_cons]
    have hshort : newer.length + 1 ≤ s.length := by
      -- the new key and those in front of `e` are different members of `s`
      have hkeys : t.keys = newer.map TlbEntry.key ++ (e :: older).map TlbEntry.key := by
        rw [keys, hsplit, List.map_append]
      have hdistinct := hsound.indexed.distinct
      rw [hkeys] at hdistinct hnew
      have hnodup : (x.key :: newer.map TlbEntry.key).Nodup :=
        List.nodup_cons.2
          ⟨fun hk => hnew (List.mem_append_left _ hk), (List.nodup_append.1 hdistinct).1⟩
      have hsub : x.key :: newer.map TlbEntry.key ⊆ s := by
        refine List.cons_subset.2 ⟨hx, fun k hk => ?_⟩
        obtain ⟨y, hy, rfl⟩ := List.mem_map.1 hk
        exact hnewer y hy
      simpa using (List.subperm_of_subset hnodup hsub).length_le
    cases older with
    | nil =>
      rw [List.length_nil] at hsize
      omega
    | cons y older =>
      refine ⟨{ x with timestamp := now } :: newer, (y :: older).dropLast, ?_, fun z hz => ?_⟩
      · show _ :: t.entries.dropLast = _
        rw [hsplit, List.dropLast_append_of_ne_nil (by simp), List.dropLast_cons_of_ne_nil (by simp),
          List.cons_append]
      · obtain rfl | hz := List.mem_cons.1 hz
        · exact hx
        · exact hnewer z hz

theorem setMaxAge (h : t.Near e s) (maxAge : Nat) : ({ t with maxAge } : Tlb).Near e s := h

/-- A lookup keeps the entry near the front when the key that it brings forward is of the list. -/
theorem lookup (h : t.Near e s) (hindexed : t.Indexed) {now : Nat} {k : TlbKey}
    (hk : k ∈ t.keys → k ≠ e.key → k ∈ s) (hcurrent : k = e.key → t.isAged now e = false) :
    (t.lookup now k).1.Near e s := by
  by_cases hkey : k = e.key
  · subst hkey
    exact ⟨[], _, lookup_front hindexed h.mem (hcurrent rfl), nofun⟩
  · refine lookup_cases (P := fun r => r.1.Near e s) ?_ ?_ ?_ ?_
    · exact fun _ => h
    · exact fun _ _ _ _ => h.filter (decide_eq_true (Ne.symm hkey)) rfl
    · rintro x hx rfl _ _
      exact h.front (hk (mem_keys.2 ⟨x, hx, rfl⟩) hkey) hkey rfl
    · rintro x hx rfl _ _
      exact h.front (hk (mem_keys.2 ⟨x, hx, rfl⟩) hkey) hkey rfl

end Near

/-- Nothing is stored for the key, no invalidation covers it, its entry is not found over age, and any
    other key that is touched is in `s`. -/
structure Moment.Spares (m : Moment) (k : TlbKey) (s : List TlbKey) : Prop where
  stores : m.stores k = false
  covers : m.op.covers k = false
  expires : m.expires k = false
  touched : ∀ k', m.touched = some k' → k' ≠ k → k' ∈ s

/-- A step that spares the entry keeps it near the front. -/
theorem Near.step {t : Tlb} {op : Op} {e : TlbEntry} {s : List TlbKey} (h : t.Near e s)
    (hsound : t.Sound) (hfew : s.length < t.capacity) (hspares : (Moment.mk t op).Spares e.key s)
    (hcapacity : (t.step op).1.capacity = t.capacity) : (t.step op).1.Near e s := by
  have hinsert : ∀ now x, (Moment.mk t op).stored = some { x with timestamp := now } →
      (Moment.mk t op).touched = some x.key → (t.insert now x).1.Near e s := by
    intro now x hstored htouched
    have hne : { x with timestamp := now }.key ≠ e.key :=
      Moment.stores_eq_false.1 hspares.stores _ hstored
    exact h.insert hsound hfew now (hspares.touched _ htouched hne) hne
  -- an invalidation that does not take `e` away takes others away around it
  have hkeep : ∀ n, (t.step op).2 = .removed n → (t.step op).1.Near e s := fun n hn =>
    h.filter (p := fun x => !op.covers x.key) (congrArg Bool.not hspares.covers)
      (entries_of_removed hsound.indexed hn)
  cases op with
  | insert now x => exact hinsert now x rfl rfl
  | insertIfCurrent now x epoch =>
    show (t.insertIfCurrent now x epoch).1.Near e s
    rw [insertIfCurrent]
    split
    · rename_i hepoch
      refine hinsert now x (if_pos hepoch) ?_
      simp only [Moment.touched, Moment.stored, if_pos hepoch, Option.map_some, TlbEntry.key]
    · exact h
  | lookup now k =>
    refine h.lookup hsound.indexed (fun hk hne => hspares.touched k ?_ hne) fun hkey => ?_
    · exact if_pos (contains_iff.2 hk)
    · have hexpires := hspares.expires
      simpa [Moment.expires, hkey, hsound.indexed.find?_key h.mem] using hexpires
  | invalidateAll => cases hspares.covers
  | invalidateStream stream => exact hkeep _ rfl
  | invalidatePasid stream pasid => exact hkeep _ rfl
  | invalidateRange stream pasid range => exact hkeep _ rfl
  | resize capacity =>
    -- to the capacity that it has, which it does not exceed
    have hmax : max 1 capacity = t.capacity := hcapacity
    obtain ⟨newer, older, hsplit, hnewer⟩ := h
    refine ⟨newer, older, ?_, hnewer⟩
    show t.entries.take (max 1 capacity) = _
    rw [hmax, List.take_of_length_le hsound.room.size, hsplit]
  | setMaxAgeMs ms => exact h.setMaxAge _
  | resetStatistics => exact h

theorem capacity_of_history {t : Tlb} {ops : List Op} {n : Nat}
    (h : ∀ x ∈ t.history ops, x.cache.capacity = n) (hn : (t.run ops).1.capacity = n) :
    t.capacity = n := by
  cases ops with
  | nil => exact hn
  | cons op ops => exact h ⟨t, op⟩ List.mem_cons_self

/-- So does a run in which every moment spares the entry. -/
theorem Near.run {t : Tlb} {e : TlbEntry} {s : List TlbKey} (h : t.Near e s) (hsound : t.Sound)
    {n : Nat} (hfew : s.length < n) {ops : List Op}
    (hspares : ∀ x ∈ t.history ops, x.Spares e.key s)
    (hcapacity : ∀ x ∈ t.history ops, x.cache.capacity = n) (hn : (t.run ops).1.capacity = n) :
    (t.run ops).1.Near e s := by
  induction ops generalizing t with
  | nil => exact h
  | cons op ops ih =>
    have ht : t.capacity = n := capacity_of_history hcapacity hn
    have htail : ∀ x ∈ (t.step op).1.history ops, x.cache.capacity = n := fun x hx =>
      hcapacity x (List.mem_cons_of_mem _ hx)
    have ht' : (t.step op).1.capacity = n := capacity_of_history htail hn
    have hstep : (t.step op).1.Near e s :=
      h.step hsound (ht ▸ hfew) (hspares _ List.mem_cons_self) (ht'.trans ht.symm)
    exact ih hstep (hsound.step op) (fun x hx => hspares x (List.mem_cons_of_mem _ hx)) htail hn

/-- A moment of a run divides its operations. -/
theorem history_split {t : Tlb} {ops : List Op} {before after : List Moment} {m : Moment}
    (h : t.history ops = before ++ m :: after) :
    ∃ first rest, t.history first = before ∧ m.cache = (t.run first).1 ∧
      after = (m.cache.step m.op).1.history rest ∧
      (t.run ops).1 = ((m.cache.step m.op).1.run rest).1 := by
  induction before generalizing t ops with
  | nil =>
    cases ops with
    | nil => cases h
    | cons op ops =>
      cases h
      exact ⟨[], ops, rfl, rfl, rfl, rfl⟩
  | cons x before ih =>
    cases ops with
    | nil => cases h
    | cons op ops =>
      obtain ⟨rfl, htail⟩ := List.cons.inj h
      obtain ⟨first, rest, hfirst, hcache, hafter, hrun⟩ := ih htail
      exact ⟨op :: first, rest, by rw [history, hfirst], hcache, hafter, hrun⟩

theorem mem_others {k k' : TlbKey} {h : List Moment} {x : Moment} (hx : x ∈ h)
    (htouched : x.touched = some k') (hne : k' ≠ k) : k' ∈ others k h := by
  rw [others, List.mem_dedup, List.mem_filter, List.mem_filterMap]
  exact ⟨⟨x, hx, htouched⟩, decide_eq_true hne⟩

/-- From a moment that touches the key, its latest entry is in front. -/
theorem front_of_touched {capacity : Nat} {ops : List Op} {k : TlbKey} {e : TlbEntry}
    {m last : Moment} {since after : List Moment}
    (hlatest : Latest ((ofCapacity capacity).history ops) k e m since)
    (hunexpired : ∀ x ∈ since, x.expires k = false) (hsuffix : last :: after <:+ m :: since)
    (htouched : last.touched = some k) :
    ∃ rest, last.cache.Sound ∧ after = (last.cache.step last.op).1.history rest ∧
      ((ofCapacity capacity).run ops).1 = ((last.cache.step last.op).1.run rest).1 ∧
      (last.cache.step last.op).1.Near e (others k after) := by
  obtain ⟨before, hsplit⟩ := hlatest.split
  obtain ⟨pre, hpre⟩ := hsuffix
  have hsplit' : (ofCapacity capacity).history ops = (before ++ pre) ++ last :: after := by
    rw [hsplit, ← hpre, List.append_assoc]
  obtain ⟨first, rest, hfirst, hcache, hafter, hrun⟩ := history_split hsplit'
  have hsound : last.cache.Sound := hcache ▸ (sound_ofCapacity capacity).run first
  refine ⟨rest, hsound, hafter, hrun, ?_⟩
  cases pre with
  | nil =>
    -- the insertion itself
    cases hpre
    obtain ⟨older, holder⟩ := Moment.entries_of_stored hsound.room.positive hlatest.stored
    exact ⟨[], older, holder, nofun⟩
  | cons y pre =>
    -- a lookup, as no other entry was stored; what it finds is the latest entry so far
    obtain ⟨rfl, rfl⟩ := List.cons.inj hpre
    have hmem : last ∈ pre ++ last :: after := List.mem_append_right pre List.mem_cons_self
    have htraced : Traced (before ++ y :: pre) last.cache := by
      rw [← hfirst, hcache]
      exact traced_run capacity first
    have hlatest' : Latest (before ++ y :: pre) k e y pre :=
      ⟨⟨before, rfl⟩, hlatest.stored, hlatest.key,
        fun x hx => hlatest.last x (List.mem_append_left _ hx)⟩
    obtain hstores | ⟨now, hop, hk⟩ := Moment.touched_cases htouched
    · rw [hlatest.last last hmem] at hstores
      cases hstores
    · obtain ⟨x, hx, hkey⟩ := mem_keys.1 hk
      obtain ⟨m', since', hlatest'', -⟩ := htraced x hx
      have hxe : x = e := hlatest''.unique (hkey ▸ hlatest')
      subst hxe hkey
      have hexpires := hunexpired last hmem
      simp only [Moment.expires, hop, hsound.indexed.find?_key hx, decide_true, Bool.true_and,
        Option.any_some] at hexpires
      have hfront := lookup_front hsound.indexed hx hexpires
      rw [hop]
      exact ⟨[], _, hfront, nofun⟩

/-! ## What a lookup answers -/

/-- A lookup after any operations on a new cache.  What it returns is the valid entry stored last for
    the key, not invalidated since and within the age limit.  Conversely it returns that entry if
    nothing removed it and, since the key was stored or looked up while resident, fewer other keys were
    touched than the cache has room for. -/
theorem lookup_by_history (capacity : Nat) (ops : List Op) (now : Nat) (k : TlbKey) :
    let t := ((ofCapacity capacity).run ops).1
    let h := (ofCapacity capacity).history ops
    (∀ e, (t.lookup now k).2 = some e → ∃ m since, Latest h k e m since ∧ e.valid = true ∧
      (∀ x ∈ since, x.op.covers k = false) ∧ (t.maxAge = 0 ∨ now - e.timestamp ≤ t.maxAge)) ∧
    (∀ e m since last after, Latest h k e m since → t.Retains now k e m since last after →
      last.touched = some k → (t.lookup now k).2 = some e) := by
  intro t h
  constructor
  · intro e he
    obtain ⟨hmem, rfl, hvalid, hcurrent⟩ := lookup_current he
    obtain ⟨m, since, hlatest, hsince⟩ := traced_run capacity ops e hmem
    exact ⟨m, since, hlatest, hvalid, hsince, isAged_eq_false.1 hcurrent⟩
  · intro e m since last after hlatest hr htouched
    obtain ⟨rest, hsound, hafter, hrun, hnear⟩ :=
      front_of_touched hlatest hr.unexpired hr.suffix htouched
    have hafterSince : ∀ x ∈ after, x ∈ since := by
      intro x hx
      obtain hsame | hlater := List.suffix_cons_iff.1 hr.suffix
      · cases hsame
        exact hx
      · exact hlater.subset (List.mem_cons_of_mem _ hx)
    have hspares : ∀ x ∈ (last.cache.step last.op).1.history rest,
        x.Spares e.key (others k after) := by
      intro x hx
      have hsince := hafterSince x (hafter ▸ hx)
      rw [hlatest.key]
      exact ⟨hlatest.last x hsince, hr.uncovered x hsince, hr.unexpired x hsince,
        fun _ => mem_others (hafter ▸ hx)⟩
    have hmem : e ∈ ((ofCapacity capacity).run ops).1.entries := by
      rw [hrun]
      have hcapacity : ∀ x ∈ (last.cache.step last.op).1.history rest,
          x.cache.capacity = ((ofCapacity capacity).run ops).1.capacity := fun x hx =>
        hr.capacity x (hafterSince x (hafter ▸ hx))
      exact (hnear.run (hsound.step _) hr.few hspares hcapacity
        (congrArg Tlb.capacity hrun.symm)).mem
    have hindexed := ((sound_ofCapacity capacity).run ops).indexed
    rw [← hlatest.key]
    exact lookup_found hindexed hmem hr.valid hr.current

/-- A cache with room for two keeps the page that was looked up after the second came, when a third
    comes. -/
theorem lookup_by_history_three_pages :
    let e (page : UInt64) : TlbEntry := .ofPage 1 0 page 0x8000 none .full .nonSecure
    let k := (e 0x1000).key
    let ops : List Op := [.insert 0 (e 0x1000), .insert 1 (e 0x2000), .lookup 2 k, .insert 3 (e 0x3000)]
    let h := (ofCapacity 2).history ops
    let t := ((ofCapacity 2).run ops).1
    let m : Moment := ⟨ofCapacity 2, .insert 0 (e 0x1000)⟩
    let last : Moment := ⟨((ofCapacity 2).run (ops.take 2)).1, .lookup 2 k⟩
    Latest h k (e 0x1000) m (h.drop 1) ∧ t.Retains 4 k (e 0x1000) m (h.drop 1) last (h.drop 3) ∧
      others k (h.drop 3) = [(e 0x3000).key] ∧ (t.lookup 4 k).2 = some (e 0x1000) ∧
      ∃ m' since, Latest h k (e 0x1000) m' since ∧ ∀ x ∈ since, x.op.covers k = false := by
  intro e k ops h t m last
  have hlatest : Latest h k (e 0x1000) m (h.drop 1) :=
    ⟨⟨[], by decide +kernel⟩, by decide, rfl, by decide +kernel⟩
  have hretains : t.Retains 4 k (e 0x1000) m (h.drop 1) last (h.drop 3) :=
    ⟨rfl, by decide +kernel, by decide +kernel, by decide +kernel, by decide +kernel,
      ⟨h.take 2, by decide +kernel⟩, by decide +kernel⟩
  obtain ⟨hsound, hretention⟩ := lookup_by_history 2 ops 4 k
  have hfound := hretention _ _ _ _ _ hlatest hretains (by decide +kernel)
  obtain ⟨m', since, hlatest', -, hsince, -⟩ := hsound _ hfound
  exact ⟨hlatest, hretains, by decide +kernel, hfound, m', since, hlatest', hsince⟩

/-- Not every lookup keeps a key.  One that misses brings nothing back, and the same lookup again misses
    again, though nothing was touched between the two. -/
theorem not_retained_by_missed_lookup :
    let e (page : UInt64) : TlbEntry := .ofPage 1 0 page 0x8000 none .full .nonSecure
    let k := (e 0x1000).key
    let ops : List Op := [.insert 0 (e 0x1000), .insert 0 (e 0x2000), .lookup 0 k]
    let h := (ofCapacity 1).history ops
    let t := ((ofCapacity 1).run ops).1
    let m : Moment := ⟨ofCapacity 1, .insert 0 (e 0x1000)⟩
    let last : Moment := ⟨((ofCapacity 1).run (ops.take 2)).1, .lookup 0 k⟩
    Latest h k (e 0x1000) m (h.drop 1) ∧ t.Retains 0 k (e 0x1000) m (h.drop 1) last [] ∧
      last.seeks k = true ∧ (t.lookup 0 k).2 = none := by
  intro e k ops h t m last
  have hlatest : Latest h k (e 0x1000) m (h.drop 1) :=
    ⟨⟨[], by decide +kernel⟩, by decide, rfl, by decide +kernel⟩
  have hretains : t.Retains 0 k (e 0x1000) m (h.drop 1) last [] :=
    ⟨rfl, by decide +kernel, by decide +kernel, by decide +kernel, by decide +kernel,
      ⟨h.take 2, by decide +kernel⟩, by decide +kernel⟩
  exact ⟨hlatest, hretains, by decide +kernel, by decide +kernel⟩

end Iommu.Tlb
