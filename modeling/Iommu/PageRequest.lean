/-
  Page requests: a stalled transaction asks software for its page.
-/
import Iommu.Transaction

namespace Iommu

/-- A queued page request. -/
structure PageRequest where
  stream : StreamId
  pasid : Pasid
  address : UInt64
  access : Access
  /-- Whether this is the last request of its group. -/
  isLast : Bool
  /-- Nanoseconds from the creation of the controller to the submission. -/
  timestamp : UInt64
deriving DecidableEq

/-- The request of a stalled transaction, a group of its own. -/
def PageRequest.ofTransaction (t : Transaction) : PageRequest :=
  { stream := t.stream, pasid := t.pasid, address := t.address, access := t.access,
    isLast := true, timestamp := 0 }

end Iommu
