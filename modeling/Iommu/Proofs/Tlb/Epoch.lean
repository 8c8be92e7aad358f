/-
  An entry that was resolved before an invalidation is refused, and nothing else refuses it.

  The epoch of a cache is read before the tables are walked and handed back with the entry.  It counts the
  invalidations, those that remove nothing included, and no other operation moves it (`epoch_step`).  So
  after any operations it is the epoch read plus the number of invalidations among them (`epoch_run`),
  and the two are equal exactly if there was none.

  A counter of 64 bits starts over.  It still tells the two apart as long as fewer invalidations ran
  than it has values (`epochWord_run`).
-/
import Iommu.Proofs.Tlb.Census

namespace Iommu.Tlb

/-- Whether an operation is one of the four invalidations. -/
def Op.invalidates : Op → Bool
  | .invalidateAll => true
  | .invalidateStream _ => true
  | .invalidatePasid _ _ => true
  | .invalidateRange _ _ _ => true
  | _ => false

/-- The epoch as a counter of 64 bits. -/
def epochWord (t : Tlb) : UInt64 := .ofNat t.epoch

/-! ## The epoch counts invalidations -/

/-- The epoch counts invalidations, one step at a time. -/
theorem epoch_step (t : Tlb) (op : Op) : (t.step op).1.epoch = t.epoch + op.invalidates.toNat := by
  cases op with
  | insert now e => exact epoch_insert t now e
  | insertIfCurrent now e epoch =>
    show (t.insertIfCurrent now e epoch).1.epoch = t.epoch
    rw [insertIfCurrent]
    split
    · exact epoch_insert t now e
    · rfl
  | lookup now k => exact epoch_lookup t now k
  | _ => rfl

/-- After a run the epoch is ahead by the invalidations in it. -/
theorem epoch_run (t : Tlb) (ops : List Op) :
    (t.run ops).1.epoch = t.epoch + ops.countP Op.invalidates := by
  induction ops generalizing t with
  | nil => rfl
  | cons op ops ih =>
    calc ((t.step op).1.run ops).1.epoch
        = (t.step op).1.epoch + ops.countP Op.invalidates := ih _
      _ = t.epoch + (op :: ops).countP Op.invalidates := by
        rw [epoch_step, List.countP_cons]
        cases op.invalidates <;> simp [Nat.add_comm, Nat.add_left_comm]

/-- The epoch is the one read before if and only if no invalidation ran. -/
theorem epoch_run_eq_iff (t : Tlb) (ops : List Op) :
    (t.run ops).1.epoch = t.epoch ↔ ∀ op ∈ ops, op.invalidates = false := by
  have hnone : ops.countP Op.invalidates = 0 ↔ ∀ op ∈ ops, op.invalidates = false := by
    simp [List.countP_eq_zero]
  rw [epoch_run, ← hnone]
  omega

/-- Fewer invalidations than the counter has values do not bring it back to where it was. -/
theorem epochWord_run {t : Tlb} {ops : List Op}
    (h : ops.countP Op.invalidates < UInt64.size) :
    (t.run ops).1.epochWord = t.epochWord ↔ (t.run ops).1.epoch = t.epoch := by
  refine ⟨fun hword => ?_, fun hepoch => by rw [epochWord, epochWord, hepoch]⟩
  have hmod : (t.run ops).1.epoch % 2 ^ 64 = t.epoch % 2 ^ 64 := by
    simpa [epochWord] using congrArg UInt64.toNat hword
  have hsize : UInt64.size = 2 ^ 64 := rfl
  rw [epoch_run] at hmod ⊢
  omega

/-! ## Late insertions -/

/-- An entry that is offered with the epoch read from a cache before some operations is taken exactly if
    none of them is an invalidation, whatever those removed.  A refusal leaves the cache as it is, and
    an acceptance is an insertion. -/
theorem insertIfCurrent_run (t : Tlb) (ops : List Op) (h : ops.countP Op.invalidates < UInt64.size)
    (now : Nat) (e : TlbEntry) :
    let t' := (t.run ops).1
    let late := t'.insertIfCurrent now e t.epoch
    (late.2 = true ↔ ∀ op ∈ ops, op.invalidates = false) ∧
      (late.2 = true ↔ t'.epochWord = t.epochWord) ∧
      (late.2 = false → late.1 = t') ∧ (late.2 = true → late.1 = (t'.insert now e).1) := by
  intro t' late
  have hnone := epoch_run_eq_iff t ops
  have hword := epochWord_run (t := t) h
  by_cases hepoch : t'.epoch = t.epoch
  · have htaken : late = ((t'.insert now e).1, true) := if_pos hepoch
    rw [htaken]
    exact ⟨⟨fun _ => hnone.1 hepoch, fun _ => rfl⟩, ⟨fun _ => hword.2 hepoch, fun _ => rfl⟩, nofun,
      fun _ => rfl⟩
  · have hrefused : late = (t', false) := insertIfCurrent_of_ne hepoch now e
    rw [hrefused]
    exact ⟨⟨nofun, fun hops => absurd (hnone.2 hops) hepoch⟩,
      ⟨nofun, fun hw => absurd (hword.1 hw) hepoch⟩, fun _ => rfl, nofun⟩

/-- An entry of stream 1 survives a replacement, an eviction, an entry that aged, a smaller cache and a
    reset of the counters, but not an invalidation of stream 2, which has no entries. -/
theorem insertIfCurrent_run_other_stream :
    let e (page : UInt64) : TlbEntry := .ofPage 1 0 page 0x8000 none .full .nonSecure
    let t := ((ofCapacity 2).run [.invalidateAll, .setMaxAgeMs 1]).1
    let harmless : List Op := [.insert 0 (e 0x1000), .insert 1 (e 0x1000), .insert 2 (e 0x2000),
      .insert 3 (e 0x3000), .lookup 2000000 (e 0x2000).key, .resize 1, .resetStatistics]
    let stale : List Op := harmless ++ [.invalidateStream 2]
    harmless.countP Op.invalidates < UInt64.size ∧ stale.countP Op.invalidates < UInt64.size ∧
      ((t.run harmless).1.step (.invalidateStream 2)).2 = .removed 0 ∧
      ((t.run harmless).1.insertIfCurrent 4 (e 0x4000) t.epoch).2 = true ∧
      (t.run stale).1.insertIfCurrent 4 (e 0x4000) t.epoch = ((t.run stale).1, false) := by
  intro e t harmless stale
  have hharmless : harmless.countP Op.invalidates < UInt64.size := by decide
  have hstale : stale.countP Op.invalidates < UInt64.size := by decide
  obtain ⟨htaken, -, -, -⟩ := insertIfCurrent_run t harmless hharmless 4 (e 0x4000)
  obtain ⟨hnone, -, hkept, -⟩ := insertIfCurrent_run t stale hstale 4 (e 0x4000)
  have hrefused : ((t.run stale).1.insertIfCurrent 4 (e 0x4000) t.epoch).2 = false := by
    rw [← Bool.not_eq_true, hnone]
    exact fun hops => absurd (hops (.invalidateStream 2) (by simp [stale])) (by decide)
  exact ⟨hharmless, hstale, by decide +kernel, htaken.2 (by simp [harmless, Op.invalidates]),
    Prod.ext (hkept hrefused) hrefused⟩

end Iommu.Tlb
