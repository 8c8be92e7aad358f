/-
  Events that the controller queues for software.
-/
import Iommu.Fault

namespace Iommu

/-- What an event reports. -/
inductive EventKind
  | translationFault
  | permissionFault
  | commandSyncCompletion
  | priPageRequest
  | atcInvalidateCompletion
  | configurationError
  | internalError
deriving DecidableEq

/-- The event that reports a fault of some class. -/
def EventKind.ofFault : FaultKind → EventKind
  | .translation => .translationFault
  | .addressSize => .translationFault
  | .permission => .permissionFault
  | .security => .permissionFault
  | .configuration => .configurationError

/-- A queued event. -/
structure Event where
  kind : EventKind
  stream : StreamId
  pasid : Pasid
  address : UInt64
  /-- Present when the event reports a fault. -/
  fault : Option FaultRecord
  /-- Nanoseconds from the creation of the controller to the submission. -/
  timestamp : UInt64
deriving DecidableEq

namespace Event

/-- An event that reports no fault. -/
def plain (kind : EventKind) (stream : StreamId) (pasid : Pasid) (address : UInt64) : Event :=
  { kind, stream, pasid, address, fault := none, timestamp := 0 }

/-- The event that reports a fault. -/
def ofFault (r : FaultRecord) : Event :=
  { kind := .ofFault r.kind, stream := r.stream, pasid := r.pasid, address := r.address,
    fault := some r, timestamp := 0 }

end Event

end Iommu
