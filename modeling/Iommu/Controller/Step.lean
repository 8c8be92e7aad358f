/-
  Operations on the controller as data.

  `step` performs one operation and answers what the caller sees; `run` performs a list of them.
  Time is an operation too, so entries of the cache age during a run.
  Statements about everything a controller can go through are statements about `run`.
-/
import Iommu.Controller.Requests
import Iommu.Controller.Update

namespace Iommu.Controller

/-- An operation on the controller. -/
inductive Op
  | configure (stream : StreamId) (config : StreamConfig)
  | removeStream (stream : StreamId)
  | enable (stream : StreamId)
  | disable (stream : StreamId)
  | setFaultMode (mode : FaultMode)
  | attachTable (stream : StreamId) (table : Option TableId)
  | attachLog (stream : StreamId) (log : Option LogId)
  | createPasid (stream : StreamId) (pasid : Pasid)
  | removePasid (stream : StreamId) (pasid : Pasid)
  | clearPasids (stream : StreamId)
  | map (stream : StreamId) (pasid : Pasid) (m : Mapping)
  | unmap (stream : StreamId) (pasid : Pasid) (a : UInt64)
  | mapPages (stream : StreamId) (pasid : Pasid) (ms : List Mapping)
  | unmapPages (stream : StreamId) (pasid : Pasid) (as : List UInt64)
  | editTable (table : TableId) (op : PageTable.Op)
  | translate (t : Transaction)
  | submitCommand (cmd : Command)
  | processCommands
  | clearCommands
  | submitPageRequest (r : PageRequest)
  | processPageRequests
  | clearPageRequests
  | processEvents
  | clearEvents
  | addSink (s : Sink)
  | invalidateAll
  | invalidateStream (stream : StreamId)
  | invalidatePasid (stream : StreamId) (pasid : Pasid)
  | enableCaching (enabled : Bool)
  /-- `found` is the stream that is named where several hold too many PASIDs for the configuration. -/
  | updateConfiguration (config : Configuration) (found : StreamId)
  | resetStatistics
  | reset
  | elapse (ns : Nat)
deriving DecidableEq

/-- What an operation answers when it succeeds. -/
inductive Answer
  | done
  | flag (b : Bool)
  | count (n : Nat)
  | translated (t : Translation)
  | report (r : CommandReport)
  | events (es : List Event)
deriving DecidableEq

/-- What an operation answers. -/
abbrev Outcome := Except Error Answer

/-- The next state of an operation that fails without a trace. -/
def settle (c : Controller) (r : Except Error Controller) : Controller × Outcome :=
  match r with
  | .ok c' => (c', .ok .done)
  | .error e => (c, .error e)

/-- Likewise for one that answers a flag. -/
def settleFlag (c : Controller) (r : Except Error (Controller × Bool)) : Controller × Outcome :=
  match r with
  | .ok (c', b) => (c', .ok (.flag b))
  | .error e => (c, .error e)

/-- The controller after an operation, and what the operation answers. -/
def step (c : Controller) : Op → Controller × Outcome
  | .configure stream config => c.settle (c.configure stream config)
  | .removeStream stream => c.settle (c.removeStream stream)
  | .enable stream => c.settle (c.enable stream)
  | .disable stream => c.settle (c.disable stream)
  | .setFaultMode mode => (c.setFaultMode mode, .ok .done)
  | .attachTable stream table => c.settle (c.attachTable stream table)
  | .attachLog stream log => c.settle (c.attachLog stream log)
  | .createPasid stream pasid => c.settle (c.createPasid stream pasid)
  | .removePasid stream pasid => c.settle (c.removePasid stream pasid)
  | .clearPasids stream => c.settle (c.clearPasids stream)
  | .map stream pasid m => c.settle (c.map stream pasid m)
  | .unmap stream pasid a => c.settleFlag (c.unmap stream pasid a)
  | .mapPages stream pasid ms => c.settle (c.mapPages stream pasid ms)
  | .unmapPages stream pasid as => c.settle (c.unmapPages stream pasid as)
  | .editTable table op => c.settleFlag (c.editTable table op)
  | .translate t => ((c.translate t).1, (c.translate t).2.map .translated)
  | .submitCommand cmd => ((c.submitCommand cmd).1, (c.submitCommand cmd).2.map fun _ => .done)
  | .processCommands => (c.processCommands.1, .ok (.report c.processCommands.2))
  | .clearCommands => (c.clearCommands.1, .ok (.count c.clearCommands.2))
  | .submitPageRequest r =>
    ((c.submitPageRequest r).1, (c.submitPageRequest r).2.map fun _ => .done)
  | .processPageRequests => (c.processPageRequests.1, .ok (.count c.processPageRequests.2))
  | .clearPageRequests => (c.clearPageRequests.1, .ok (.count c.clearPageRequests.2))
  | .processEvents => (c.processEvents.1, .ok (.events c.processEvents.2))
  | .clearEvents => (c.clearEvents.1, .ok (.count c.clearEvents.2))
  | .addSink s => (c.addSink s, .ok .done)
  | .invalidateAll => (c.invalidateAll.1, .ok (.count c.invalidateAll.2))
  | .invalidateStream stream =>
    ((c.invalidateStream stream).1, .ok (.count (c.invalidateStream stream).2))
  | .invalidatePasid stream pasid =>
    ((c.invalidatePasid stream pasid).1, .ok (.count (c.invalidatePasid stream pasid).2))
  | .enableCaching enabled => (c.enableCaching enabled, .ok .done)
  | .updateConfiguration config found => c.settle (c.updateConfiguration config found)
  | .resetStatistics => (c.resetStatistics, .ok .done)
  | .reset => (c.reset, .ok .done)
  | .elapse ns => (c.elapse ns, .ok .done)

/-- The controller after a list of operations, with their answers. -/
def run (c : Controller) : List Op → Controller × List Outcome
  | [] => (c, [])
  | op :: ops =>
    let (c', outcome) := c.step op
    let (c'', outcomes) := c'.run ops
    (c'', outcome :: outcomes)

/-- Running a list in two parts is running it whole. -/
theorem run_append (c : Controller) (xs ys : List Op) :
    c.run (xs ++ ys) =
      (((c.run xs).1.run ys).1, (c.run xs).2 ++ ((c.run xs).1.run ys).2) := by
  induction xs generalizing c with
  | nil => rfl
  | cons op xs ih => simp [run, ih]

end Iommu.Controller
