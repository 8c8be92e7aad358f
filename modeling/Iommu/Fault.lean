/-
  Faults: why a translation was refused, at which stage, and the record that is kept of it.
-/
import Iommu.Transaction

namespace Iommu

/-- The class of a fault. -/
inductive FaultKind
  /-- No valid mapping for the input address. -/
  | translation
  /-- A mapping is present but does not grant the access. -/
  | permission
  /-- An input or output address is wider than its bus. -/
  | addressSize
  /-- The security state of the transaction may not use the page. -/
  | security
  /-- The configuration of the stream or PASID prevented translation. -/
  | configuration
deriving DecidableEq

/-- The part of a translation to which a fault is attributed. -/
inductive Stage
  | stage1
  | stage2
  /-- Before any stage ran. -/
  | unstaged
deriving DecidableEq

/-- What is kept of a fault. -/
structure FaultRecord where
  stream : StreamId
  pasid : Pasid
  address : UInt64
  kind : FaultKind
  access : Access
  security : Security
  stage : Stage
  /-- Nanoseconds since the controller was created. -/
  timestamp : UInt64
deriving DecidableEq

/-- The record of a fault that a transaction met. -/
def FaultRecord.ofTransaction (t : Transaction) (kind : FaultKind) (stage : Stage)
    (timestamp : UInt64) : FaultRecord :=
  { stream := t.stream, pasid := t.pasid, address := t.address, kind, access := t.access,
    security := t.security, stage, timestamp }

end Iommu
