/-
  Changing the configuration in force, and starting over.

  `updateConfiguration` accepts a configuration only when it is valid and the present state fits into
  it: the stream table, every stream's PASIDs, then the event, command and page request queue.  What
  fails first is the error, and nothing changes; which of several streams with too many PASIDs the error
  names is left open.  On success the fault log and the cache shrink if they must, every stream gets the
  new limits, and the cache is emptied when caching is off or the rules changed under which its entries
  were admitted.
-/
import Iommu.Controller.Streams

namespace Iommu.Controller

/-- A stream that holds more PASIDs than a limit, if there is one.  The search goes through the stream
    table in an order that nothing determines, so where several hold too many any of them may be the one
    it finds first.  `found` stands for that order: the stream of this number is the one found if it holds
    too many, and else the first by number. -/
def overfullStream? (c : Controller) (limit : Nat) (found : StreamId) : Option Stream :=
  (c.streams[found]?.filter fun s => limit < s.pasidCount).or
    (c.streams.values.find? fun s => limit < s.pasidCount)

/-- Whether cached translations were admitted under rules other than those of `new`. -/
def rulesChanged (old new : Configuration) : Bool :=
  old.widths ≠ new.widths || old.allowPasidZero ≠ new.allowPasidZero

/-- The cache under a new configuration. -/
def reshapeTlb (t : Tlb) (old new : Configuration) : Tlb :=
  let t := (t.resize new.cache.size.toNat).setMaxAgeMs new.cache.maxAgeMs
  if !new.cache.enabled || rulesChanged old new then t.invalidateAll.1 else t

/-- The state under a new configuration that it fits into. -/
def adopt (c : Controller) (new : Configuration) (events : Queue Event)
    (commands : Queue Command) (pageRequests : Queue PageRequest) : Controller :=
  let (faultLog, discarded) := c.faultLog.setCapacity new.queues.faultLog.toNat
  let c := (c.addDiscarded discarded).mapStreams fun s => s.setLimits (limitsOf new)
  { c with
    config := new, events, commands, pageRequests, faultLog
    tlb := reshapeTlb c.tlb c.config new }

/-- Puts a new configuration in force, as a whole or not at all.  `found` says which stream is named
    where several hold too many PASIDs. -/
def updateConfiguration (c : Controller) (new : Configuration) (found : StreamId) :
    Except Error Controller :=
  match new.problem? with
  | some p => .error (.misconfigured (.setting p))
  | none =>
    if new.widths.streams.toNat < c.streamCount then
      .error (.misconfigured (.tooManyStreams c.streamCount new.widths.streams.toNat))
    else match c.overfullStream? new.widths.pasids.toNat found with
      | some s =>
        .error (.misconfigured (.tooManyPasids s.id s.pasidCount new.widths.pasids.toNat))
      | none => do
        let events ← c.events.resizeTo .event new.queues.events.toNat
        let commands ← c.commands.resizeTo .command new.queues.commands.toNat
        let pageRequests ← c.pageRequests.resizeTo .pageRequest new.queues.pageRequests.toNat
        return c.adopt new events commands pageRequests

/-- Turns caching on or off; turning it off empties the cache. -/
def enableCaching (c : Controller) (enabled : Bool) : Controller :=
  let c := { c with config := { c.config with cache := { c.config.cache with enabled } } }
  if enabled then c else c.invalidateAll.1

/-- Sets every counter to zero. -/
def resetStatistics (c : Controller) : Controller :=
  { c.mapStreams Stream.resetStatistics with
    counters := {}
    tlb := c.tlb.resetStatistics
    events := c.events.resetCounters
    commands := c.commands.resetCounters
    pageRequests := c.pageRequests.resetCounters }

/-- Drops every stream, queued entry, cached translation, stall, fault record and statistic.  The
    configuration and the sinks stay. -/
def reset (c : Controller) : Controller :=
  { c with
    streams := ∅
    tlb := c.tlb.invalidateAll.1
    events := c.events.clear
    commands := c.commands.clear
    pageRequests := c.pageRequests.clear
    stalls := .empty
    faultLog := c.faultLog.clear }.resetStatistics

end Iommu.Controller
