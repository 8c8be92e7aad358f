/-
  What changes of the cache do to its size and to what it holds.

  A cache is changed by its own operations only, and a bound on those is a bound on the change:
  `Changed p t t'` says that `t'` comes of `t` by operations of a kind `p`.  Two kinds matter.

  * Operations that do not resize keep the capacity and never fill the cache above it
    (`Holds.changed`): an insertion into a full cache evicts one entry for the one it adds.
  * Operations that do not insert only take entries away (`Changed.mem`).
-/
import Iommu.Proofs.Tlb.Residence

namespace Iommu.Tlb

/-! ## Kinds of changes -/

/-- Operations that set the capacity. -/
def Op.resizes : Op → Bool
  | .resize _ => true
  | _ => false

/-- Operations that bring an entry. -/
def Op.inserts : Op → Bool
  | .insert _ _ => true
  | .insertIfCurrent _ _ _ => true
  | _ => false

/-- One cache comes of another by operations of a kind. -/
inductive Changed (p : Op → Bool) (t : Tlb) : Tlb → Prop
  | refl : Changed p t t
  | step {t' : Tlb} (op : Op) : Changed p t t' → p op = true → Changed p t (t'.step op).1

namespace Changed

variable {p : Op → Bool} {t t' t'' : Tlb}

theorem one (op : Op) (h : p op = true) : Changed p t (t.step op).1 := .step op .refl h

theorem trans (h : Changed p t t') (h' : Changed p t' t'') : Changed p t t'' := by
  induction h' with
  | refl => exact h
  | step op _ hop ih => exact .step op ih hop

/-- What the operations of a kind keep, a change of that kind keeps. -/
theorem keeps {P : Tlb → Prop} (h : Changed p t t')
    (hstep : ∀ t op, p op = true → P t → P (t.step op).1) (ht : P t) : P t' := by
  induction h with
  | refl => exact ht
  | step op _ hop ih => exact hstep _ op hop ih

end Changed

/-! ## Room -/

/-- The cache has a capacity, which is not zero, and no more entries than that. -/
structure Holds (t : Tlb) (n : Nat) : Prop where
  positive : 0 < n
  capacity : t.capacity = n
  size : t.size ≤ n

/-- Taking out a resident key makes the list shorter. -/
theorem length_without_lt {k : TlbKey} {es : List TlbEntry} (h : ∃ e ∈ es, e.key = k) :
    (without k es).length < es.length := by
  obtain ⟨e, he, hk⟩ := h
  refine List.length_filter_lt_length_iff_exists.2 ⟨e, he, ?_⟩
  simp [hk]

namespace Holds

variable {t : Tlb} {n : Nat}

/-- Taking entries away. -/
theorem shrink (h : t.Holds n) {t' : Tlb} (hcapacity : t'.capacity = t.capacity)
    (hle : t'.entries.length ≤ t.entries.length) : t'.Holds n :=
  ⟨h.positive, hcapacity.trans h.capacity, Nat.le_trans hle h.size⟩

/-- An insertion evicts where it would overfill. -/
theorem insert (h : t.Holds n) (now : Nat) (e : TlbEntry) : (t.insert now e).1.Holds n := by
  have hsize : t.entries.length ≤ n := h.size
  simp only [Tlb.insert]
  split
  · -- the entry of the key leaves for the new one
    rename_i hc
    have hlt := length_without_lt (mem_keys.1 (contains_iff.1 hc))
    exact h.shrink rfl hlt
  · split
    · rename_i hroom
      rw [h.capacity] at hroom
      exact ⟨h.positive, h.capacity, hroom⟩
    · split
      · exact ⟨h.positive, h.capacity, h.positive⟩
      · rename_i old hold
        refine h.shrink rfl ?_
        have hne : t.entries ≠ [] := by
          rintro hnil
          rw [hnil] at hold
          cases hold
        have hpos := List.length_pos_iff.2 hne
        rw [List.length_cons, List.length_dropLast]
        omega

/-- A lookup moves entries, and never adds one. -/
theorem lookup (h : t.Holds n) (now : Nat) (k : TlbKey) : (t.lookup now k).1.Holds n := by
  rw [Tlb.lookup]
  split
  · exact h.shrink rfl (Nat.le_refl _)
  · rename_i e hf
    have hlt : (without k t.entries).length < t.entries.length :=
      length_without_lt ⟨e, find?_eq_some hf⟩
    split
    · exact h.shrink rfl (Nat.le_of_lt hlt)
    · split <;> exact h.shrink rfl hlt

theorem removeKeys (h : t.Holds n) (gone : List TlbKey) : (t.removeKeys gone).Holds n :=
  h.shrink rfl (List.length_filter_le ..)

theorem bump (h : t.Holds n) : t.bump.Holds n := h.shrink rfl (Nat.le_refl _)

theorem setMaxAge (h : t.Holds n) (maxAge : Nat) : ({ t with maxAge } : Tlb).Holds n :=
  h.shrink rfl (Nat.le_refl _)

-- through any limit at all, as in `Indexed.setMaxAgeMs`
theorem setMaxAgeMs (h : t.Holds n) (ms : UInt64) : (t.setMaxAgeMs ms).Holds n := h.setMaxAge _

/-- No operation but a resize can take the cache past its bound. -/
theorem step (h : t.Holds n) (op : Op) (hop : op.resizes = false) : (t.step op).1.Holds n := by
  cases op with
  | insert now e => exact h.insert now e
  | insertIfCurrent now e epoch =>
    show (t.insertIfCurrent now e epoch).1.Holds n
    rw [Tlb.insertIfCurrent]
    split
    · exact h.insert now e
    · exact h
  | lookup now k => exact h.lookup now k
  | invalidateAll => exact h.shrink rfl (Nat.zero_le _)
  | invalidateStream stream => exact h.shrink rfl (List.length_filter_le ..)
  | invalidatePasid stream pasid => exact (h.removeKeys _).bump
  | invalidateRange stream pasid range => exact (h.removeKeys _).bump
  | resize capacity => cases hop
  | setMaxAgeMs ms => exact h.setMaxAgeMs ms
  | resetStatistics => exact h.shrink rfl (Nat.le_refl _)

/-- Operations that do not resize keep the capacity and stay within it. -/
theorem changed (h : t.Holds n) {p : Op → Bool} {t' : Tlb} (hchange : Changed p t t')
    (hp : ∀ op, p op = true → op.resizes = false) : t'.Holds n :=
  hchange.keeps (P := fun u => u.Holds n) (fun _ op hop ht => ht.step op (hp op hop)) h

end Holds

/-- A new cache is empty and has the capacity asked for, or one. -/
theorem holds_ofCapacity {n : Nat} (h : 0 < n) : (ofCapacity n).Holds n :=
  ⟨h, Nat.max_eq_right h, Nat.zero_le _⟩

/-- A cache that is resized holds what fits. -/
theorem holds_resize (t : Tlb) {n : Nat} (h : 0 < n) : (t.resize n).Holds n := by
  have hmax : max 1 n = n := Nat.max_eq_right h
  refine ⟨h, hmax, ?_⟩
  show (t.entries.take (max 1 n)).length ≤ n
  rw [hmax]
  exact List.length_take_le ..

/-! ## Entries -/

theorem mem_setMaxAge {t : Tlb} {maxAge : Nat} {e : TlbEntry}
    (h : e ∈ ({ t with maxAge } : Tlb).entries) : e ∈ t.entries := h

/-- Only insertions bring entries in. -/
theorem mem_step {t : Tlb} {op : Op} (hop : op.inserts = false) {e : TlbEntry}
    (h : e ∈ (t.step op).1.entries) : e ∈ t.entries := by
  cases op with
  | insert now e => cases hop
  | insertIfCurrent now e epoch => cases hop
  | lookup now k => exact mem_lookup h
  | invalidateAll => cases h
  | invalidateStream stream => exact List.mem_of_mem_filter h
  | invalidatePasid stream pasid => exact List.mem_of_mem_filter h
  | invalidateRange stream pasid range => exact List.mem_of_mem_filter h
  | resize capacity => exact mem_resize h
  | setMaxAgeMs ms => exact mem_setMaxAge h
  | resetStatistics => exact h

/-- Operations that do not insert only take entries away. -/
theorem Changed.mem {p : Op → Bool} {t t' : Tlb} (h : Changed p t t')
    (hp : ∀ op, p op = true → op.inserts = false) {e : TlbEntry} (he : e ∈ t'.entries) :
    e ∈ t.entries := by
  have hsub : ∀ x ∈ t'.entries, x ∈ t.entries :=
    h.keeps (P := fun u => ∀ x ∈ u.entries, x ∈ t.entries)
      (fun _ op hop ht x hx => ht x (mem_step (hp op hop) hx)) fun _ hx => hx
  exact hsub e he

end Iommu.Tlb
