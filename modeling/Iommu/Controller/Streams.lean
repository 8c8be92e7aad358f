/-
  Operations on the stream table.

  Here each operation is a function that answers either an error or the next state.  How it is carried out
  on a state that is changed where it lies, write by write, is the subject of `Iommu.Controller.InPlace`.
  An operation that succeeds also removes from the cache what it may have made wrong: the page for a single
  mapping, the PASID for a bulk one, and the stream for everything else.  When a PASID or stream goes away
  its stalled transactions go with it.
-/
import Iommu.Controller.State

namespace Iommu.Controller

/-! ## Removing from the cache -/

/-- Empties the cache; the answer is the number of entries dropped. -/
def invalidateAll (c : Controller) : Controller × Nat :=
  ({ c with tlb := c.tlb.invalidateAll.1 }, c.tlb.invalidateAll.2)

/-- Drops what is cached of a stream, and answers how much that was. -/
def invalidateStream (c : Controller) (id : StreamId) : Controller × Nat :=
  ({ c with tlb := (c.tlb.invalidateStream id).1 }, (c.tlb.invalidateStream id).2)

/-- Drops what is cached of a PASID, and answers how much that was. -/
def invalidatePasid (c : Controller) (id : StreamId) (pasid : Pasid) : Controller × Nat :=
  ({ c with tlb := (c.tlb.invalidatePasid id pasid).1 }, (c.tlb.invalidatePasid id pasid).2)

/-- Drops what is cached of the pages of a range, and answers how much that was. -/
def invalidateRange (c : Controller) (id : StreamId) (pasid : Pasid) (range : PageRange) :
    Controller × Nat :=
  ({ c with tlb := (c.tlb.invalidateRange id pasid range).1 },
    (c.tlb.invalidateRange id pasid range).2)

/-! ## Terminating stalls -/

/-- Terminates and counts the stalled transactions of a stream. -/
def terminateStream (c : Controller) (id : StreamId) : Controller :=
  { c with stalls := (c.stalls.dropStream id).1 }.addTerminated (c.stalls.dropStream id).2

/-- Terminates and counts the stalled transactions of a PASID. -/
def terminatePasid (c : Controller) (id : StreamId) (pasid : Pasid) : Controller :=
  { c with stalls := (c.stalls.dropPasid id pasid).1 }.addTerminated
    (c.stalls.dropPasid id pasid).2

/-! ## Streams -/

/-- Configures a new stream, or replaces the configuration of one that exists.  A full stream table
    is reported before anything wrong with the configuration. -/
def configure (c : Controller) (id : StreamId) (config : StreamConfig) :
    Except Error Controller :=
  match c.streams[id]? with
  | some s =>
    match s.configure config with
    | .error e => .error e
    | .ok s' => .ok ((c.setStream s').invalidateStream id).1
  | none =>
    if c.config.widths.streams.toNat ≤ c.streamCount then
      .error (.misconfigured (.streamTableFull id c.config.widths.streams.toNat))
    else match Stream.create id config (limitsOf c.config) with
      | .error e => .error e
      | .ok s => .ok (c.setStream s)

/-- Removes a stream. -/
def removeStream (c : Controller) (id : StreamId) : Except Error Controller :=
  match c.stream id with
  | .error e => .error e
  | .ok _ =>
    let c := { c with streams := c.streams.erase id }
    .ok ((c.invalidateStream id).1.terminateStream id)

/-- Enables a stream; the cache is left as it is. -/
def enable (c : Controller) (id : StreamId) : Except Error Controller :=
  match c.stream id with
  | .error e => .error e
  | .ok s => .ok (c.setStream (s.setEnabled true))

/-- Disables a stream and drops what is cached of it. -/
def disable (c : Controller) (id : StreamId) : Except Error Controller :=
  match c.stream id with
  | .error e => .error e
  | .ok s => .ok ((c.setStream (s.setEnabled false)).invalidateStream id).1

/-- Sets the fault mode of every stream. -/
def setFaultMode (c : Controller) (mode : FaultMode) : Controller :=
  c.mapStreams fun s => s.setFaultMode mode

/-- Attaches a stage-2 table, or detaches it. -/
def attachTable (c : Controller) (id : StreamId) (table : Option TableId) :
    Except Error Controller :=
  match c.stream id with
  | .error e => .error e
  | .ok s => .ok ((c.setStream (s.attachTable table)).invalidateStream id).1

/-- Attaches a log that receives the stream's faults, or detaches it. -/
def attachLog (c : Controller) (id : StreamId) (log : Option LogId) : Except Error Controller :=
  match c.stream id with
  | .error e => .error e
  | .ok s => .ok (c.setStream (s.attachLog log))

/-! ## PASIDs -/

/-- Creates a PASID. -/
def createPasid (c : Controller) (id : StreamId) (pasid : Pasid) : Except Error Controller :=
  match c.stream id with
  | .error e => .error e
  | .ok s =>
    match s.createPasid pasid with
    | .error e => .error e
    | .ok s' => .ok (c.setStream s')

/-- Removes a PASID, with what is cached of it and with its stalled transactions. -/
def removePasid (c : Controller) (id : StreamId) (pasid : Pasid) : Except Error Controller :=
  match c.stream id with
  | .error e => .error e
  | .ok s =>
    match s.removePasid pasid with
    | .error e => .error e
    | .ok s' => .ok (((c.setStream s').invalidatePasid id pasid).1.terminatePasid id pasid)

/-- Removes every PASID of a stream, with what is cached and with the stalled transactions. -/
def clearPasids (c : Controller) (id : StreamId) : Except Error Controller :=
  match c.stream id with
  | .error e => .error e
  | .ok s => .ok (((c.setStream s.clearPasids).invalidateStream id).1.terminateStream id)

/-! ## Mappings -/

/-- Maps a page and drops the translation of the page that may be cached. -/
def map (c : Controller) (id : StreamId) (pasid : Pasid) (m : Mapping) :
    Except Error Controller :=
  match c.stream id with
  | .error e => .error e
  | .ok s =>
    match s.map pasid m with
    | .error e => .error e
    | .ok s' => .ok ((c.setStream s').invalidateRange id pasid (.single m.input)).1

/-- Unmaps a page; the answer says whether it was mapped. -/
def unmap (c : Controller) (id : StreamId) (pasid : Pasid) (a : UInt64) :
    Except Error (Controller × Bool) :=
  match c.stream id with
  | .error e => .error e
  | .ok s =>
    match s.unmap pasid a with
    | .error e => .error e
    | .ok (s', removed) =>
      .ok (((c.setStream s').invalidateRange id pasid (.single a)).1, removed)

/-- Maps pages and drops whatever is cached of their PASID. -/
def mapPages (c : Controller) (id : StreamId) (pasid : Pasid) (ms : List Mapping) :
    Except Error Controller :=
  match c.stream id with
  | .error e => .error e
  | .ok s =>
    match s.mapPages pasid ms with
    | .error e => .error e
    | .ok s' => .ok ((c.setStream s').invalidatePasid id pasid).1

/-- Unmaps pages and drops whatever is cached of their PASID. -/
def unmapPages (c : Controller) (id : StreamId) (pasid : Pasid) (as : List UInt64) :
    Except Error Controller :=
  match c.stream id with
  | .error e => .error e
  | .ok s =>
    match s.unmapPages pasid as with
    | .error e => .error e
    | .ok s' => .ok ((c.setStream s').invalidatePasid id pasid).1

/-! ## Shared tables -/

/-- Changes a shared table directly.  Cached translations made through it stay. -/
def editTable (c : Controller) (id : TableId) (op : PageTable.Op) :
    Except Error (Controller × Bool) :=
  match (c.resources.table id).step op with
  | .error e => .error e
  | .ok (t, answer) => .ok ({ c with resources := c.resources.setTable id t }, answer)

end Iommu.Controller
