/-
  Walking the tables of a stream.

  `walk` translates without leaving a trace.  A stream that does not translate passes addresses
  through.  Otherwise `entryTable` tests, in order, that the stream is enabled, the PASID permitted and
  present, and the address within the input bus; a failure there belongs to no stage.  Then the stages
  run: stage 1 looks the address up in the PASID's own table, stage 2 in the attached one, and with
  both the output of the first is the input of the second.  A fault names its stage and the address
  that went into it.

  `resolve` is `walk` with its traces: the attempt is counted, and a fault is counted and recorded in
  the attached log.
-/
import Iommu.Stream

namespace Iommu

/-- An error of a walk and the stage it is attributed to. -/
structure StageFault where
  error : Error
  stage : Stage
deriving DecidableEq

/-- A fault met before any stage ran. -/
def StageFault.unstaged (error : Error) : StageFault := ⟨error, .unstaged⟩

namespace Stream

/-- The conditions a transaction meets before any stage; the answer is the table of its PASID. -/
def entryTable (s : Stream) (t : Transaction) : Except Error PageTable :=
  if !s.enabled then .error (.streamDisabled s.id)
  else if !s.admitsPasid t.pasid then .error (.invalidPasid t.pasid)
  else match s.pasidTable t.pasid with
    | .error e => .error e
    | .ok table =>
      if fitsIn t.address s.limits.inputBits then .ok table
      else .error (.invalidAddress t.address s.limits.inputBits)

/-- One stage: looks an address up in a table. -/
def lookStage (stage : Stage) (table : PageTable) (address : UInt64) (t : Transaction) :
    Except StageFault PageEntry :=
  match table.check address t.access t.security with
  | .ok e => .ok e
  | .error e => .error ⟨e, stage⟩

/-- Stage 2, which needs a table to be attached. -/
def lookStage2 (s : Stream) (second : Option PageTable) (address : UInt64) (t : Transaction) :
    Except StageFault PageEntry :=
  match second with
  | none => .error ⟨.misconfigured (.noStage2Table s.id), .stage2⟩
  | some table => lookStage .stage2 table address t

/-- A translation through one stage. -/
def throughOne (t : Transaction) (e : PageEntry) : Translation :=
  .walked (inPage e.physical t.address) none e.permissions t.security

/-- Runs the stages that a mode names. -/
def runStages (s : Stream) (mode : StageMode) (first : PageTable) (second : Option PageTable)
    (t : Transaction) : Except StageFault Translation :=
  match mode with
  | .bypass => .ok (.bypass t.address t.security)
  | .stage1Only => (lookStage .stage1 first t.address t).map (throughOne t)
  | .stage2Only => (s.lookStage2 second t.address t).map (throughOne t)
  | .bothStages =>
    match lookStage .stage1 first t.address t with
    | .error f => .error f
    | .ok e1 =>
      let middle := inPage e1.physical t.address
      match s.lookStage2 second middle t with
      | .error f => .error f
      | .ok e2 =>
        .ok (.walked (inPage e2.physical t.address) (some middle)
          (e1.permissions.inter e2.permissions) t.security)

/-- Translates a transaction, given the table attached for stage 2. -/
def walkWith (s : Stream) (second : Option PageTable) (t : Transaction) :
    Except StageFault Translation :=
  if s.config.translationEnabled then
    match s.entryTable t with
    | .error e => .error (.unstaged e)
    | .ok first => s.runStages s.config.stageMode first second t
  else
    .ok (.bypass t.address t.security)

/-- Translates a transaction without recording anything. -/
def walk (s : Stream) (r : Resources) (t : Transaction) : Except StageFault Translation :=
  s.walkWith (s.table.map r.table) t

/-! ## Walking with traces -/

/-- Counts a fault and records it in the attached log. -/
def recordFault (s : Stream) (r : Resources) (clock : Nat) (t : Transaction) (f : StageFault) :
    Stream × Resources :=
  let record := FaultRecord.ofTransaction { t with stream := s.id } f.error.faultKind f.stage
    (.ofNat clock)
  (s.countFault, r.record s.log record)

/-- Translates a transaction, counting the attempt and recording a fault. -/
def resolve (s : Stream) (r : Resources) (clock : Nat) (t : Transaction) :
    (Stream × Resources) × Except StageFault Translation :=
  match s.walk r t with
  | .ok x => ((s.countTranslation true, r), .ok x)
  | .error f => ((s.countTranslation false).recordFault r clock t f, .error f)

/-- A bypassed walk answers the address itself. -/
theorem walk_of_not_translationEnabled {s : Stream} (h : s.config.translationEnabled = false)
    (r : Resources) (t : Transaction) :
    s.walk r t = .ok (.bypass t.address t.security) := by
  simp [walk, walkWith, h]

/-- A walk does not depend on the counters of the stream. -/
theorem walk_countTranslation (s : Stream) (b : Bool) (r : Resources) (t : Transaction) :
    (s.countTranslation b).walk r t = s.walk r t := rfl

end Stream

end Iommu
