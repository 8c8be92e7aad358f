/-
  Commands that software queues for the controller.

  A command names its kind, the stream and PASID it is about, and a range of addresses; kinds that
  need less ignore the rest.  All but four kinds name a stream that has to exist (`targetsStream`).
-/
import Iommu.Address

namespace Iommu

/-- What a command does. -/
inductive CommandKind
  | prefetchConfig
  | prefetchAddr
  | cfgiSte
  | cfgiAll
  | tlbiNhAll
  | tlbiEl2All
  | tlbiS12Vmall
  | tlbiNhAsid
  | tlbiNhVa
  | atcInv
  | priResp
  | resume
  | sync
deriving DecidableEq

/-- Whether a command of this kind names a stream that must be configured. -/
def CommandKind.targetsStream : CommandKind → Bool
  | .cfgiAll => false
  | .tlbiNhAll => false
  | .tlbiEl2All => false
  | .sync => false
  | _ => true

/-- A queued command. -/
structure Command where
  kind : CommandKind
  stream : StreamId
  pasid : Pasid
  start : UInt64
  /-- End of the range, itself outside it; equal to `start` in commands about one page. -/
  stop : UInt64
  /-- Nanoseconds from the creation of the controller to the submission. -/
  timestamp : UInt64
deriving DecidableEq

namespace Command

/-- A command over a range of addresses. -/
def ranged (kind : CommandKind) (stream : StreamId) (pasid : Pasid) (start stop : UInt64) :
    Command :=
  { kind, stream, pasid, start, stop, timestamp := 0 }

/-- A command about a stream and PASID without a range. -/
def plain (kind : CommandKind) (stream : StreamId) (pasid : Pasid) : Command :=
  ranged kind stream pasid 0 0

/-- The barrier: completed by an event, which has to fit into its queue. -/
def sync : Command := plain .sync 0 0

/-- Drops everything from the cache. -/
def tlbiNhAll : Command := plain .tlbiNhAll 0 0

/-- Drops everything from the cache as well; the two differ in name only. -/
def tlbiEl2All : Command := plain .tlbiEl2All 0 0

/-- Announces changes to every stream, and drops everything from the cache. -/
def cfgiAll : Command := plain .cfgiAll 0 0

/-- Drops what is cached of a stream. -/
def tlbiS12Vmall (stream : StreamId) : Command := plain .tlbiS12Vmall stream 0

/-- Announces a change to one stream, and drops what is cached of it. -/
def cfgiSte (stream : StreamId) : Command := plain .cfgiSte stream 0

/-- Asks for the configuration of a stream in advance; there is nothing to do. -/
def prefetchConfig (stream : StreamId) : Command := plain .prefetchConfig stream 0

/-- Drops what is cached of a PASID. -/
def tlbiNhAsid (stream : StreamId) (pasid : Pasid) : Command := plain .tlbiNhAsid stream pasid

/-- Drops what is cached of the pages of a range. -/
def tlbiNhVa (stream : StreamId) (pasid : Pasid) (start stop : UInt64) : Command :=
  ranged .tlbiNhVa stream pasid start stop

/-- Drops what is cached of the pages of a range, and reports that by an event. -/
def atcInv (stream : StreamId) (pasid : Pasid) (start stop : UInt64) : Command :=
  ranged .atcInv stream pasid start stop

/-- Releases the stalled transactions of a range to be tried again. -/
def resume (stream : StreamId) (pasid : Pasid) (start stop : UInt64) : Command :=
  ranged .resume stream pasid start stop

/-- Fills the cache with the translation of an address. -/
def prefetchAddr (stream : StreamId) (pasid : Pasid) (address : UInt64) : Command :=
  ranged .prefetchAddr stream pasid address address

/-- The response to a page request: it names the page of `address`. -/
def priResp (stream : StreamId) (pasid : Pasid) (address : UInt64) : Command :=
  ranged .priResp stream pasid address address

/-- Whether the command is the barrier. -/
def isSync (c : Command) : Bool := c.kind = .sync

/-- The range of addresses the command is about. -/
def range (c : Command) : PageRange := ⟨c.start, c.stop⟩

end Command

end Iommu
