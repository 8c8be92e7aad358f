/-
  Operations on a stream as data.

  A session is a stream together with the shared tables and logs.  `step` performs one operation, on the
  stream, on the table of one of its PASIDs or on a shared table, and answers what the caller sees; `run`
  performs a list of them.  A shared table can be changed whether or not it is attached.  Statements about
  every state that a stream can be brought to are statements about `run`.

  The table of a PASID belongs to that PASID alone: what `attachTable` attaches is one of the shared
  tables, so there is no operation that makes the stage-1 table of a PASID the stage-2 table of a stream.
  A caller that hands out the table of a PASID and attaches it again is outside this description.
-/
import Iommu.Stream.Walk

namespace Iommu.Stream

/-- Changes the table of a PASID directly, past the checks that the stream makes of a mapping. -/
def editPasid (s : Stream) (pasid : Pasid) (op : PageTable.Op) : Except Error (Stream × Bool) :=
  match s.pasidTable pasid with
  | .error e => .error e
  | .ok t =>
    match t.step op with
    | .error e => .error e
    | .ok (t', b) => .ok (s.setPasidTable pasid t', b)

/-- A stream, and the tables and logs that it can be attached to. -/
structure Session where
  stream : Stream
  resources : Resources
deriving DecidableEq

/-- An operation on a stream or on a shared table. -/
inductive Op
  | configure (config : StreamConfig)
  | setFaultMode (mode : FaultMode)
  | setLimits (limits : StreamLimits)
  | setEnabled (enabled : Bool)
  /-- Attaches a shared table for stage 2, or detaches it; the table of a PASID is not among them. -/
  | attachTable (table : Option TableId)
  | attachLog (log : Option LogId)
  | createPasid (pasid : Pasid)
  | removePasid (pasid : Pasid)
  | clearPasids
  | map (pasid : Pasid) (m : Mapping)
  | unmap (pasid : Pasid) (a : UInt64)
  | mapPages (pasid : Pasid) (ms : List Mapping)
  | unmapPages (pasid : Pasid) (as : List UInt64)
  | editPasid (pasid : Pasid) (op : PageTable.Op)
  | editTable (table : TableId) (op : PageTable.Op)
  | translate (clock : Nat) (t : Transaction)
  | recordFault (clock : Nat) (t : Transaction) (f : StageFault)
  | resetStatistics
deriving DecidableEq

/-- What an operation answers when it succeeds. -/
inductive Answer
  | done
  | flag (b : Bool)
  | translated (t : Translation)
deriving DecidableEq

/-- What an operation answers. -/
abbrev Outcome := Except Error Answer

namespace Session

/-- The session of a new stream; no table holds a page. -/
def start (id : StreamId) (config : StreamConfig) (limits : StreamLimits) : Except Error Session :=
  (create id config limits).map fun s => ⟨s, .empty⟩

/-- The session after an operation on its stream that cannot fail. -/
def set (x : Session) (s : Stream) : Session × Outcome := ({ x with stream := s }, .ok .done)

/-- The session after an operation on its stream that changes nothing when it fails. -/
def settle (x : Session) (r : Except Error Stream) : Session × Outcome :=
  match r with
  | .ok s => x.set s
  | .error e => (x, .error e)

/-- Likewise for one that answers a flag. -/
def settleFlag (x : Session) (r : Except Error (Stream × Bool)) : Session × Outcome :=
  match r with
  | .ok (s, b) => ({ x with stream := s }, .ok (.flag b))
  | .error e => (x, .error e)

/-- Changes a shared table. -/
def editTable (x : Session) (id : TableId) (op : PageTable.Op) : Session × Outcome :=
  match (x.resources.table id).step op with
  | .ok (t, b) => ({ x with resources := x.resources.setTable id t }, .ok (.flag b))
  | .error e => (x, .error e)

/-- Translates a transaction, with the traces that leaves. -/
def translate (x : Session) (clock : Nat) (t : Transaction) : Session × Outcome :=
  let ((s, r), answer) := x.stream.resolve x.resources clock t
  (⟨s, r⟩, (answer.mapError StageFault.error).map .translated)

/-- Counts and records a fault. -/
def recordFault (x : Session) (clock : Nat) (t : Transaction) (f : StageFault) :
    Session × Outcome :=
  let (s, r) := x.stream.recordFault x.resources clock t f
  (⟨s, r⟩, .ok .done)

/-- The session after an operation, and what the operation answers. -/
def step (x : Session) : Op → Session × Outcome
  | .configure config => x.settle (x.stream.configure config)
  | .setFaultMode mode => x.set (x.stream.setFaultMode mode)
  | .setLimits limits => x.set (x.stream.setLimits limits)
  | .setEnabled enabled => x.set (x.stream.setEnabled enabled)
  | .attachTable table => x.set (x.stream.attachTable table)
  | .attachLog log => x.set (x.stream.attachLog log)
  | .createPasid pasid => x.settle (x.stream.createPasid pasid)
  | .removePasid pasid => x.settle (x.stream.removePasid pasid)
  | .clearPasids => x.set x.stream.clearPasids
  | .map pasid m => x.settle (x.stream.map pasid m)
  | .unmap pasid a => x.settleFlag (x.stream.unmap pasid a)
  | .mapPages pasid ms => x.settle (x.stream.mapPages pasid ms)
  | .unmapPages pasid as => x.settle (x.stream.unmapPages pasid as)
  | .editPasid pasid op => x.settleFlag (x.stream.editPasid pasid op)
  | .editTable table op => x.editTable table op
  | .translate clock t => x.translate clock t
  | .recordFault clock t f => x.recordFault clock t f
  | .resetStatistics => x.set x.stream.resetStatistics

/-- The session after a list of operations, with their answers. -/
def run (x : Session) : List Op → Session × List Outcome
  | [] => (x, [])
  | op :: ops =>
    let (x', outcome) := x.step op
    let (x'', outcomes) := x'.run ops
    (x'', outcome :: outcomes)

/-- What the stream answers a transaction, without recording anything. -/
def walk (x : Session) (t : Transaction) : Except StageFault Translation :=
  x.stream.walk x.resources t

end Session

end Iommu.Stream
