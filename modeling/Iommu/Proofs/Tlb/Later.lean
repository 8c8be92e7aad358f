/-
  The translation cache on another clock.

  `later t ns n` is what the cache would be with every entry stored `ns` later, after `n` more
  invalidations.  Operation by operation, there is no telling the difference: asked `ns` later, with epochs
  `n` further on, each does to this cache what it does to `t`, and answers the same up to the time stamp
  of an entry.  A lookup compares stamps with the clock, an insertion compares epochs, and nothing reads
  either on its own.
-/
import Iommu.Tlb

namespace Iommu

/-- The entry as stored some nanoseconds later. -/
def TlbEntry.later (e : TlbEntry) (ns : Nat) : TlbEntry := { e with timestamp := e.timestamp + ns }

namespace Tlb

/-- The cache with its entries stored some nanoseconds later, after some more invalidations. -/
def later (t : Tlb) (ns n : Nat) : Tlb :=
  { t with entries := t.entries.map fun e => e.later ns, epoch := t.epoch + n }

/-! ## Reading -/

theorem size_later (t : Tlb) (ns n : Nat) : (t.later ns n).size = t.size := List.length_map ..

theorem find?_later (t : Tlb) (ns n : Nat) (k : TlbKey) :
    (t.later ns n).find? k = (t.find? k).map fun e => e.later ns := List.find?_map ..

theorem contains_later (t : Tlb) (ns n : Nat) (k : TlbKey) :
    (t.later ns n).contains k = t.contains k := by
  rw [contains, find?_later, Option.isSome_map, contains]

/-- Ages are differences of stamps, which a common delay leaves. -/
theorem isAged_later (t : Tlb) (ns n now : Nat) (e : TlbEntry) :
    (t.later ns n).isAged (now + ns) (e.later ns) = t.isAged now e := by
  show (t.maxAge ≠ 0 && t.maxAge < now + ns - (e.timestamp + ns) : Bool) = _
  rw [Nat.add_sub_add_right]
  rfl

/-- Entries are chosen by their keys, which stay. -/
theorem filter_later (p : TlbKey → Bool) (es : List TlbEntry) (ns : Nat) :
    (es.map fun e => e.later ns).filter (fun e => p e.key) =
      (es.filter fun e => p e.key).map fun e => e.later ns := List.filter_map ..

theorem without_later (k : TlbKey) (es : List TlbEntry) (ns : Nat) :
    without k (es.map fun e => e.later ns) = (without k es).map fun e => e.later ns :=
  filter_later (fun k' => k' ≠ k) es ns

/-! ## Insertion and lookup -/

/-- An insertion evicts the same entry, later. -/
theorem insert_later (t : Tlb) (ns n now : Nat) (e : TlbEntry) :
    (t.later ns n).insert (now + ns) e =
      ((t.insert now e).1.later ns n, (t.insert now e).2.map fun e => e.later ns) := by
  have hkey : ∀ stamp, ({ e with timestamp := stamp } : TlbEntry).key = e.key := fun _ => rfl
  have hlast : (t.later ns n).entries.getLast? = t.entries.getLast?.map fun e => e.later ns :=
    List.getLast?_map ..
  have hcapacity : (t.later ns n).capacity = t.capacity := rfl
  simp only [insert, hkey, contains_later, size_later, hlast, hcapacity]
  split
  · simp only [later, without_later]
    rfl
  · split
    · rfl
    · cases t.entries.getLast? with
      | none => rfl
      | some old =>
        simp only [later, Option.map_some, List.map_dropLast, List.map_cons]
        rfl

/-- The epoch test compares two epochs that moved together. -/
theorem insertIfCurrent_later (t : Tlb) (ns n now : Nat) (e : TlbEntry) (epoch : Nat) :
    (t.later ns n).insertIfCurrent (now + ns) e (epoch + n) =
      ((t.insertIfCurrent now e epoch).1.later ns n, (t.insertIfCurrent now e epoch).2) := by
  have hepoch : ((t.later ns n).epoch = epoch + n) = (t.epoch = epoch) :=
    propext Nat.add_right_cancel_iff
  simp only [insertIfCurrent, hepoch, insert_later]
  split <;> rfl

/-- A lookup finds the same entry, later. -/
theorem lookup_later (t : Tlb) (ns n now : Nat) (k : TlbKey) :
    (t.later ns n).lookup (now + ns) k =
      ((t.lookup now k).1.later ns n, (t.lookup now k).2.map fun e => e.later ns) := by
  simp only [lookup, find?_later]
  cases t.find? k with
  | none => rfl
  | some e =>
    have hvalid : (e.later ns).valid = e.valid := rfl
    simp only [Option.map_some, isAged_later, hvalid]
    split
    · simp only [later, without_later]
      rfl
    · split <;>
      · simp only [later, without_later]
        rfl

/-! ## Invalidation -/

theorem removeKeys_later (t : Tlb) (ns n : Nat) (gone : List TlbKey) :
    (t.later ns n).removeKeys gone = (t.removeKeys gone).later ns n := by
  simp only [removeKeys, later, filter_later fun k => !gone.contains k]

theorem bump_later (t : Tlb) (ns n : Nat) : (t.later ns n).bump = t.bump.later ns n := by
  simp only [bump, later, Nat.add_right_comm]

theorem invalidateAll_later (t : Tlb) (ns n : Nat) :
    (t.later ns n).invalidateAll = (t.invalidateAll.1.later ns n, t.invalidateAll.2) := by
  rw [invalidateAll, size_later]
  simp only [invalidateAll, bump, later, Nat.add_right_comm, List.map_nil]

theorem invalidateStream_later (t : Tlb) (ns n : Nat) (id : StreamId) :
    (t.later ns n).invalidateStream id =
      ((t.invalidateStream id).1.later ns n, (t.invalidateStream id).2) := by
  simp only [invalidateStream, bump, later, Nat.add_right_comm,
    filter_later fun k => !(t.index.streamKeys id).contains k]

theorem invalidatePasid_later (t : Tlb) (ns n : Nat) (id : StreamId) (pasid : Pasid) :
    (t.later ns n).invalidatePasid id pasid =
      ((t.invalidatePasid id pasid).1.later ns n, (t.invalidatePasid id pasid).2) := by
  rw [invalidatePasid, removeKeys_later, bump_later]
  rfl

theorem invalidateRange_later (t : Tlb) (ns n : Nat) (id : StreamId) (pasid : Pasid)
    (range : PageRange) : (t.later ns n).invalidateRange id pasid range =
      ((t.invalidateRange id pasid range).1.later ns n, (t.invalidateRange id pasid range).2) := by
  rw [invalidateRange, removeKeys_later, bump_later]
  rfl

/-! ## Capacity and statistics -/

/-- A resize drops the same entries. -/
theorem resize_later (t : Tlb) (ns n capacity : Nat) :
    (t.later ns n).resize capacity = (t.resize capacity).later ns n := by
  have hkeys : ((t.entries.map fun e => e.later ns).drop (max 1 capacity)).map TlbEntry.key =
      (t.entries.drop (max 1 capacity)).map TlbEntry.key := by
    rw [← List.map_drop, List.map_map]
    rfl
  simp only [resize, later, hkeys, List.map_take, List.length_drop, List.length_map]

-- through any limit at all, as in `Indexed.setMaxAgeMs`
theorem setMaxAge_later (t : Tlb) (ns n maxAge : Nat) :
    ({ t.later ns n with maxAge } : Tlb) = ({ t with maxAge } : Tlb).later ns n := rfl

theorem setMaxAgeMs_later (t : Tlb) (ns n : Nat) (ms : UInt64) :
    (t.later ns n).setMaxAgeMs ms = (t.setMaxAgeMs ms).later ns n := setMaxAge_later ..

theorem resetStatistics_later (t : Tlb) (ns n : Nat) :
    (t.later ns n).resetStatistics = t.resetStatistics.later ns n := rfl

end Tlb

end Iommu
