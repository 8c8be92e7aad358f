/-
  Time.

  Time passes in one operation only (`clock_step`), and the clock that shows it is a 64-bit number of
  nanoseconds, which stops at the greatest.  `measured` is a list of operations with the time that
  passes between them as a controller's clock shows it; as long as the clock does not stop, that is the
  list itself (`measured_eq`).
-/
import Iommu.Proofs.Controller.Reach

namespace Iommu.Controller

/-- Time passes in one way only. -/
theorem clock_step {c : Controller} {op : Op} (hop : ∀ ns, op ≠ .elapse ns) :
    (c.step op).1.clock = c.clock := by
  by_cases hconfined : op.confined = true
  · rw [confined_step hconfined]
  · cases op with
    | translate t =>
      show (c.translate t).1.clock = _
      rw [called_translate c t]
    | processCommands =>
      show c.processCommands.1.clock = _
      rw [processed_processCommands c]
    | submitPageRequest r =>
      show (c.submitPageRequest r).1.clock = _
      rw [submitPageRequest_eq]
    | clearPageRequests =>
      show c.clearPageRequests.1.clock = _
      rw [clearPageRequests_eq]
    | enableCaching enabled => cases enabled <;> rfl
    | updateConfiguration new found =>
      refine settle_preserves (P := fun d => d.clock = c.clock) rfl fun c' hc => ?_
      obtain ⟨-, events, commands, pageRequests, -, -, -, rfl⟩ := updateConfiguration_eq_ok hc
      rfl
    | elapse ns => exact absurd rfl (hop ns)
    | _ => first | rfl | exact absurd rfl hconfined

/-- The clock shows a 64-bit stamp. -/
theorem clock_step_lt {c : Controller} (h : c.clock < UInt64.size) (op : Op) :
    (c.step op).1.clock < UInt64.size := by
  by_cases helapse : ∃ ns, op = .elapse ns
  · obtain ⟨ns, rfl⟩ := helapse
    exact Nat.lt_of_le_of_lt (Nat.min_le_right ..) (by decide)
  · rwa [clock_step fun ns hns => helapse ⟨ns, hns⟩]

/-! ## Time as a clock measures it -/

/-- An operation as the clock measures it: time that passes is what the clock advances by. -/
def measure (c : Controller) : Op → Op
  | .elapse ns => .elapse ((c.elapse ns).clock - c.clock)
  | op => op

/-- The operations of a run as its clock measures them. -/
def measured (c : Controller) : List Op → List Op
  | [] => []
  | op :: ops => c.measure op :: (c.step op).1.measured ops

/-- Nanoseconds that pass in a run. -/
def elapsed : List Op → Nat
  | [] => 0
  | .elapse ns :: ops => ns + elapsed ops
  | _ :: ops => elapsed ops

/-- Only what lets time pass is measured. -/
theorem measure_eq {c : Controller} {op : Op} (hop : ∀ ns, op ≠ .elapse ns) : c.measure op = op := by
  cases op with
  | elapse ns => exact absurd rfl (hop ns)
  | _ => rfl

/-- No other operation takes time. -/
theorem elapsed_cons {op : Op} (hop : ∀ ns, op ≠ .elapse ns) (ops : List Op) :
    elapsed (op :: ops) = elapsed ops := by
  cases op with
  | elapse ns => exact absurd rfl (hop ns)
  | _ => rfl

/-- A clock that does not stop measures the time that passes. -/
theorem measured_eq {c : Controller} {ops : List Op} (h : c.clock + elapsed ops < UInt64.size) :
    c.measured ops = ops := by
  induction ops generalizing c with
  | nil => rfl
  | cons op ops ih =>
    by_cases helapse : ∃ ns, op = .elapse ns
    · obtain ⟨ns, rfl⟩ := helapse
      rw [elapsed] at h
      have hclock : (c.elapse ns).clock = c.clock + ns := by
        show min (c.clock + ns) (UInt64.size - 1) = _
        omega
      have htail : (c.elapse ns).measured ops = ops := ih (by omega)
      rw [measured, measure, hclock, Nat.add_sub_cancel_left]
      exact congrArg _ htail
    · have hop : ∀ ns, op ≠ .elapse ns := fun ns hns => helapse ⟨ns, hns⟩
      rw [elapsed_cons hop] at h
      rw [measured, measure_eq hop, ih (by rwa [clock_step hop])]

end Iommu.Controller
