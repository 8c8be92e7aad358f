/-
  The controller changed where it is.

  The operations of the controller as actions, each with its tests and writes in the order in which they
  are made.  Most of them do something to one stream and then, if that did not fail, drop from the cache
  and from the stalled transactions what it made wrong (`changeStream`).  Removing a stream takes it out
  before it is known whether it was there.  A new configuration resizes the three queues one after the
  other; when one of them holds too much, those before it are given the sizes of the configuration in
  force again (`updateConfiguration`).

  `perform` carries an operation out in this way, and `performAll` a list of them.
-/
import Iommu.Controller.Step
import Iommu.Stream.InPlace

namespace Iommu.Controller

namespace InPlace

variable {α : Type}

/-! ## Streams -/

/-- Does something to a configured stream. -/
def onStream (id : StreamId) (x : Action Stream α) : Action Controller α :=
  .within (·.stream id) (fun c s => { c with streams := c.streams.insert id s }) x

/-- Does something to a configured stream, and then something to the rest of the controller. -/
def changeStream (id : StreamId) (x : Action Stream α) (after : Controller → Controller) :
    Action Controller α := do
  let answer ← onStream id x
  modify after
  return answer

/-- Configures a new stream, or replaces the configuration of one that exists. -/
def configure (id : StreamId) (config : StreamConfig) : Action Controller Unit := do
  let c ← get
  if c.isConfigured id then
    changeStream id (Stream.InPlace.configure config) fun c => (c.invalidateStream id).1
  else if c.config.widths.streams.toNat ≤ c.streamCount then
    throw (.misconfigured (.streamTableFull id c.config.widths.streams.toNat))
  else do
    let s ← .check (Stream.create id config (limitsOf c.config))
    set (c.setStream s)

/-- Takes a stream out, and fails when there was none to take; otherwise its translations and stalls go
    with it. -/
def removeStream (id : StreamId) : Action Controller Unit := do
  let c ← get
  set { c with streams := c.streams.erase id }
  if c.isConfigured id then
    modify fun c => (c.invalidateStream id).1.terminateStream id
  else throw (.streamNotConfigured id)

/-- Enables a stream. -/
def enable (id : StreamId) : Action Controller Unit :=
  changeStream id (modify (·.setEnabled true)) fun c => c

/-- Disables a stream and drops its translations. -/
def disable (id : StreamId) : Action Controller Unit :=
  changeStream id (modify (·.setEnabled false)) fun c => (c.invalidateStream id).1

/-- Attaches a stage-2 table, or detaches it. -/
def attachTable (id : StreamId) (table : Option TableId) : Action Controller Unit :=
  changeStream id (modify (·.attachTable table)) fun c => (c.invalidateStream id).1

/-- Attaches a log that receives the stream's faults, or detaches it. -/
def attachLog (id : StreamId) (log : Option LogId) : Action Controller Unit :=
  changeStream id (modify (·.attachLog log)) fun c => c

/-! ## PASIDs and mappings -/

/-- Creates a PASID. -/
def createPasid (id : StreamId) (pasid : Pasid) : Action Controller Unit :=
  changeStream id (Stream.InPlace.createPasid pasid) fun c => c

/-- Removes a PASID with its translations and stalls. -/
def removePasid (id : StreamId) (pasid : Pasid) : Action Controller Unit :=
  changeStream id (Stream.InPlace.removePasid pasid) fun c =>
    (c.invalidatePasid id pasid).1.terminatePasid id pasid

/-- Removes every PASID of a stream, with its translations and stalls. -/
def clearPasids (id : StreamId) : Action Controller Unit :=
  changeStream id (modify (·.clearPasids)) fun c => (c.invalidateStream id).1.terminateStream id

/-- Maps one page and drops its translation. -/
def map (id : StreamId) (pasid : Pasid) (m : Mapping) : Action Controller Unit :=
  changeStream id (Stream.InPlace.map pasid m) fun c => (c.invalidateRange id pasid (.single m.input)).1

/-- Unmaps one page and drops its translation; the answer says whether it was mapped. -/
def unmap (id : StreamId) (pasid : Pasid) (a : UInt64) : Action Controller Bool :=
  changeStream id (Stream.InPlace.unmap pasid a) fun c => (c.invalidateRange id pasid (.single a)).1

/-- Maps pages and drops the translations of their PASID. -/
def mapPages (id : StreamId) (pasid : Pasid) (ms : List Mapping) : Action Controller Unit :=
  changeStream id (Stream.InPlace.mapPages pasid ms) fun c => (c.invalidatePasid id pasid).1

/-- Unmaps pages and drops the translations of their PASID. -/
def unmapPages (id : StreamId) (pasid : Pasid) (as : List UInt64) : Action Controller Unit :=
  changeStream id (Stream.InPlace.unmapPages pasid as) fun c => (c.invalidatePasid id pasid).1

/-- Changes a shared table.  A number that was never written stays so as long as nothing but a failure
    came of it. -/
def editTable (id : TableId) (op : PageTable.Op) : Action Controller Bool := do
  let c ← get
  let (t, answer) := (PageTable.InPlace.edit op).perform (c.resources.table id)
  if !answer.isOk && t = c.resources.table id then .check answer
  else do
    set { c with resources := c.resources.setTable id t }
    .check answer

/-! ## A new configuration -/

/-- Resizes the event queue, unless it holds too much. -/
def resizeEvents (size : Nat) : Action Controller Unit := do
  let c ← get
  let events ← .check (c.events.resizeTo .event size)
  set { c with events }

/-- Resizes the command queue, unless it holds too much. -/
def resizeCommands (size : Nat) : Action Controller Unit := do
  let c ← get
  let commands ← .check (c.commands.resizeTo .command size)
  set { c with commands }

/-- Resizes the page request queue, unless it holds too much. -/
def resizePageRequests (size : Nat) : Action Controller Unit := do
  let c ← get
  let pageRequests ← .check (c.pageRequests.resizeTo .pageRequest size)
  set { c with pageRequests }

/-- Resizes the queues one after the other.  When one holds too much, those before it are given their old
    sizes, and whether they take them is not asked. -/
def resizeQueues (old new : Configuration.Queues) : Action Controller Unit := do
  resizeEvents new.events.toNat
  (resizeCommands new.commands.toNat).orUndo (resizeEvents old.events.toNat).attempt
  (resizePageRequests new.pageRequests.toNat).orUndo do
    (resizeEvents old.events.toNat).attempt
    (resizeCommands old.commands.toNat).attempt

/-- Puts a new configuration in force. -/
def updateConfiguration (new : Configuration) (found : StreamId) : Action Controller Unit := do
  let c ← get
  match new.problem? with
  | some p => throw (.misconfigured (.setting p))
  | none =>
    if new.widths.streams.toNat < c.streamCount then
      throw (.misconfigured (.tooManyStreams c.streamCount new.widths.streams.toNat))
    else match c.overfullStream? new.widths.pasids.toNat found with
      | some s => throw (.misconfigured (.tooManyPasids s.id s.pasidCount new.widths.pasids.toNat))
      | none => do
        resizeQueues c.config.queues new.queues
        modify fun c => c.adopt new c.events c.commands c.pageRequests

end InPlace

/-! ## Operations -/

/-- An operation as an action.  Those that answer no error, translation and the submissions are what they
    are as steps; a submission that is refused counts the refusal. -/
def Op.inPlace : Op → Action Controller Answer
  | .configure id config => InPlace.configure id config *> pure .done
  | .removeStream id => InPlace.removeStream id *> pure .done
  | .enable id => InPlace.enable id *> pure .done
  | .disable id => InPlace.disable id *> pure .done
  | .attachTable id table => InPlace.attachTable id table *> pure .done
  | .attachLog id log => InPlace.attachLog id log *> pure .done
  | .createPasid id pasid => InPlace.createPasid id pasid *> pure .done
  | .removePasid id pasid => InPlace.removePasid id pasid *> pure .done
  | .clearPasids id => InPlace.clearPasids id *> pure .done
  | .map id pasid m => InPlace.map id pasid m *> pure .done
  | .unmap id pasid a => .flag <$> InPlace.unmap id pasid a
  | .mapPages id pasid ms => InPlace.mapPages id pasid ms *> pure .done
  | .unmapPages id pasid as => InPlace.unmapPages id pasid as *> pure .done
  | .editTable id op => .flag <$> InPlace.editTable id op
  | .updateConfiguration new found => InPlace.updateConfiguration new found *> pure .done
  | op => .ofStep (·.step op)

/-- The controller after an operation carried out in place, and what the operation answers. -/
def perform (c : Controller) (op : Op) : Controller × Outcome := op.inPlace.perform c

/-- The controller after a list of operations carried out in place, with their answers. -/
def performAll (c : Controller) : List Op → Controller × List Outcome
  | [] => (c, [])
  | op :: ops =>
    let (c', outcome) := c.perform op
    let (c'', outcomes) := c'.performAll ops
    (c'', outcome :: outcomes)

end Iommu.Controller
