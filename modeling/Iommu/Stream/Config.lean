/-
  How a stream is set up: which stages it runs, what it does with a fault, and the limits it takes
  from the controller.
-/
import Iommu.Address

namespace Iommu

/-- What a stream does with a transaction that faults. -/
inductive FaultMode
  /-- The transaction ends. -/
  | terminate
  /-- The transaction waits while software is asked for its page. -/
  | stall
deriving DecidableEq

/-- The stages a stream runs. -/
inductive StageMode
  | bypass
  | stage1Only
  | stage2Only
  | bothStages
deriving DecidableEq

/-- The configuration of a stream. -/
structure StreamConfig where
  translationEnabled : Bool := true
  stage1Enabled : Bool := true
  stage2Enabled : Bool := false
  faultMode : FaultMode := .terminate
deriving DecidableEq

namespace StreamConfig

/-- Only the tables of the stream are walked. -/
def stage1Only : StreamConfig := {}
/-- Only the shared table is walked. -/
def stage2Only : StreamConfig := { stage1Enabled := false, stage2Enabled := true }
/-- The tables of the stream are walked, and then the shared one. -/
def bothStages : StreamConfig := { stage2Enabled := true }
/-- Addresses are passed on as they are. -/
def bypass : StreamConfig := { translationEnabled := false, stage1Enabled := false }

instance : Inhabited StreamConfig := ⟨stage1Only⟩

/-- A stream that translates needs a stage.  A table for stage 2 may be attached later. -/
def isValid (c : StreamConfig) : Bool :=
  !c.translationEnabled || c.stage1Enabled || c.stage2Enabled

/-- The stages that run. -/
def stageMode (c : StreamConfig) : StageMode :=
  match c.translationEnabled, c.stage1Enabled, c.stage2Enabled with
  | true, true, false => .stage1Only
  | true, false, true => .stage2Only
  | true, true, true => .bothStages
  | _, _, _ => .bypass

/-- A valid configuration runs no stage exactly when translation is off. -/
theorem stageMode_eq_bypass_iff {c : StreamConfig} (h : c.isValid = true) :
    c.stageMode = .bypass ↔ c.translationEnabled = false := by
  rcases c with ⟨t, s1, s2, m⟩
  cases t <;> cases s1 <;> cases s2 <;> simp_all [stageMode, isValid]

end StreamConfig

/-- The limits of a stream. -/
structure StreamLimits where
  allowPasidZero : Bool := true
  maxPasids : Nat := maxPasid.toNat + 1
  inputBits : UInt32 := 64
  outputBits : UInt32 := 64
deriving DecidableEq

end Iommu
