/-
  The command queue.

  Commands run in the order of submission, each once.  A SYNC completes only when its completion event
  fits in the event queue; otherwise it stays in front and processing stops there, so that nothing
  behind it takes effect.  A command that names an unknown stream fails: it is consumed and reported
  as an event.
-/
import Iommu.Controller.Streams
import Iommu.Controller.Translate

namespace Iommu.Controller

/-- What came of processing the command queue. -/
structure CommandReport where
  /-- Commands completed, SYNC apart. -/
  executed : Nat
  /-- Commands that could not be applied. -/
  failed : Nat
  syncs : Nat
  /-- Processing stopped at a SYNC whose completion did not fit. -/
  blocked : Bool
deriving DecidableEq

/-- No command was reached. -/
def CommandReport.none : CommandReport := ⟨0, 0, 0, false⟩

/-- Queues a command. -/
def submitCommand (c : Controller) (cmd : Command) : Controller × Except Error Unit :=
  let (commands, outcome) := c.commands.submit .command { cmd with timestamp := c.stamp }
  ({ c with commands }, outcome)

/-- Discards the queued commands; the answer is how many. -/
def clearCommands (c : Controller) : Controller × Nat :=
  ({ c with commands := c.commands.clear }, c.commands.size)

/-! ## Execution -/

/-- Releases the stalls of a range and counts them as resumed. -/
def resume (c : Controller) (id : StreamId) (pasid : Pasid) (range : PageRange) : Controller :=
  { c with stalls := (c.stalls.resume id pasid range).1 }.addResumed
    (c.stalls.resume id pasid range).2

/-- Fills the cache ahead of use.  A walk that would fault is ignored. -/
def prefetch (c : Controller) (s : Stream) (cmd : Command) : Controller :=
  if c.config.cache.enabled then
    let t : Transaction :=
      { stream := cmd.stream, pasid := cmd.pasid, address := cmd.start, access := .read,
        security := .nonSecure }
    match s.walk c.resources t with
    | .ok r => c.remember t r c.tlb.epoch
    | .error _ => c
  else c

/-- The effect of a command that names a stream, on that stream. -/
def executeOn (c : Controller) (s : Stream) (cmd : Command) : Controller :=
  match cmd.kind with
  | .tlbiS12Vmall | .cfgiSte => (c.invalidateStream cmd.stream).1
  | .tlbiNhAsid => (c.invalidatePasid cmd.stream cmd.pasid).1
  | .tlbiNhVa => (c.invalidateRange cmd.stream cmd.pasid cmd.range).1
  | .atcInv =>
    (c.invalidateRange cmd.stream cmd.pasid cmd.range).1.emit
      (.plain .atcInvalidateCompletion cmd.stream cmd.pasid cmd.start)
  | .prefetchAddr => c.prefetch s cmd
  | .priResp =>
    let c := c.resume cmd.stream cmd.pasid (.ofPage cmd.start)
    { c with counters := { c.counters with pageResponses := c.counters.pageResponses + 1 } }
  | .resume => c.resume cmd.stream cmd.pasid cmd.range
  | _ => c

/-- Carries out a command.  SYNC has no effect of its own. -/
def execute (c : Controller) (cmd : Command) : Except Error Controller :=
  if cmd.kind.targetsStream then
    match c.stream cmd.stream with
    | .error e => .error e
    | .ok s => .ok (c.executeOn s cmd)
  else if cmd.isSync then .ok c
  else .ok c.invalidateAll.1

/-- Takes the oldest command off the queue and counts it. -/
def consume (c : Controller) : Controller :=
  { c with
    commands := c.commands.popFront
    counters := { c.counters with commandsProcessed := c.counters.commandsProcessed + 1 } }

/-- The event that reports a completed SYNC. -/
def completion (c : Controller) : Event :=
  { Event.plain .commandSyncCompletion 0 0 0 with timestamp := c.stamp }

/-- Offers the completion event of a SYNC to the event queue. -/
def offerCompletion (c : Controller) : Controller :=
  { c with events := c.events.push c.completion }

/-- Counts a completed SYNC. -/
def countSync (c : Controller) : Controller :=
  { c with counters := { c.counters with syncCompletions := c.counters.syncCompletions + 1 } }

/-- Counts and reports a command that failed. -/
def failCommand (c : Controller) (cmd : Command) : Controller :=
  { c with counters := { c.counters with commandsFailed := c.counters.commandsFailed + 1 } }.emit
    (.plain .configurationError cmd.stream cmd.pasid cmd.start)

/-- Runs the command in front of the queue; `none` when it is a SYNC that has to wait. -/
def runFront (c : Controller) (cmd : Command) (report : CommandReport) :
    Option (Controller × CommandReport) :=
  if cmd.isSync then
    if c.events.isFull then none
    else some (c.offerCompletion.countSync.consume, { report with syncs := report.syncs + 1 })
  else match c.execute cmd with
    | .ok c => some (c.consume, { report with executed := report.executed + 1 })
    | .error _ => some ((c.failCommand cmd).consume, { report with failed := report.failed + 1 })

/-- Runs queued commands, one for each element of the list that holds them. -/
def runCommands (c : Controller) (report : CommandReport) :
    List Command → Controller × CommandReport
  | [] => (c, report)
  | cmd :: rest =>
    match c.runFront cmd report with
    | some (c, report) => c.runCommands report rest
    | none => (c.offerCompletion, { report with blocked := true })

/-- Runs queued commands in order until the queue is empty or a SYNC has to wait.  No command
    queues another, so the commands present are all there is to run. -/
def processCommands (c : Controller) : Controller × CommandReport :=
  c.runCommands .none c.commands.entries

end Iommu.Controller
