/-
  The state of the controller and what can be read from it.

  One value holds everything: the configuration in force, the stream table, the translation cache,
  the three queues, the stalled transactions, the controller's own fault log, counters, sinks, the
  shared tables and logs, and the time.  Operations take the value to the next one.
-/
import Iommu.Command
import Iommu.PageRequest
import Iommu.Queue.Named
import Iommu.Sink
import Iommu.Stall
import Iommu.Stream.Walk
import Iommu.Tlb

namespace Iommu

/-- What the controller counts.  The counts are numbers without bound: a counter kept in a 64-bit word
    is the same number until it has been advanced 2^64 times, when it would start over at zero. -/
structure Counters where
  translations : Nat := 0
  successes : Nat := 0
  failures : Nat := 0
  faults : Nat := 0
  faultsDiscarded : Nat := 0
  eventsDropped : Nat := 0
  commandsProcessed : Nat := 0
  commandsFailed : Nat := 0
  syncCompletions : Nat := 0
  pageRequests : Nat := 0
  pageResponses : Nat := 0
  pageOverflows : Nat := 0
  stallsResumed : Nat := 0
  /-- Stalls released without a response: their PASID, stream or request went away. -/
  stallsTerminated : Nat := 0
deriving DecidableEq

/-- A controller. -/
structure Controller where
  config : Configuration
  streams : Std.ExtTreeMap StreamId Stream
  tlb : Tlb
  events : Queue Event
  commands : Queue Command
  pageRequests : Queue PageRequest
  stalls : StallTable
  faultLog : FaultLog
  counters : Counters
  sinks : List Sink
  deliveries : List Delivery
  resources : Resources
  /-- Nanoseconds since the controller was created. -/
  clock : Nat
deriving DecidableEq

namespace Controller

/-- The controller of a configuration, before any operation. -/
def start (config : Configuration) (sinks : List Sink) (deliveries : List Delivery)
    (resources : Resources) (clock : Nat) : Controller :=
  { config
    streams := ∅
    tlb := (Tlb.ofCapacity config.cache.size.toNat).setMaxAgeMs config.cache.maxAgeMs
    events := .ofCapacity config.queues.events.toNat
    commands := .ofCapacity config.queues.commands.toNat
    pageRequests := .ofCapacity config.queues.pageRequests.toNat
    stalls := .empty
    faultLog := .ofCapacity config.queues.faultLog.toNat
    counters := {}
    sinks, deliveries, resources, clock }

/-- A new controller, if its configuration is valid. -/
def create (config : Configuration) : Except Error Controller :=
  match config.problem? with
  | some p => .error (.misconfigured (.setting p))
  | none => .ok (start config [] [] .empty 0)

/-- The limits that a configuration gives to streams. -/
def limitsOf (config : Configuration) : StreamLimits :=
  { allowPasidZero := config.allowPasidZero
    maxPasids := config.widths.pasids.toNat
    inputBits := config.widths.inputBits
    outputBits := config.widths.outputBits }

/-- The time as a 64-bit stamp. -/
def stamp (c : Controller) : UInt64 := .ofNat c.clock

/-- Lets nanoseconds pass.  The clock stops at the greatest stamp. -/
def elapse (c : Controller) (ns : Nat) : Controller :=
  { c with clock := min (c.clock + ns) (UInt64.size - 1) }

/-! ## Reading -/

/-- How many streams are configured. -/
def streamCount (c : Controller) : Nat := c.streams.size

/-- Whether a stream is configured. -/
def isConfigured (c : Controller) (id : StreamId) : Bool := c.streams.contains id

/-- A configured stream. -/
def stream (c : Controller) (id : StreamId) : Except Error Stream :=
  match c.streams[id]? with
  | some s => .ok s
  | none => .error (.streamNotConfigured id)

/-- The streams configured, ascending. -/
def streamIds (c : Controller) : List StreamId := c.streams.keys

/-- Replaces a stream. -/
def setStream (c : Controller) (s : Stream) : Controller :=
  { c with streams := c.streams.insert s.id s }

/-- Changes every stream. -/
def mapStreams (c : Controller) (f : Stream → Stream) : Controller :=
  { c with streams := c.streams.map fun _ s => f s }

/-- Everything the controller counts, with the counters of the cache. -/
structure Statistics where
  counters : Counters
  cache : Tlb.Statistics
  streams : Nat
deriving DecidableEq

/-- All counters with the numbers of streams and of cached entries. -/
def statistics (c : Controller) : Statistics :=
  { counters := c.counters, cache := c.tlb.statistics, streams := c.streamCount }

/-! ## Counting -/

/-- Counts fault records that the log had to discard. -/
def addDiscarded (c : Controller) (n : Nat) : Controller :=
  { c with counters := { c.counters with faultsDiscarded := c.counters.faultsDiscarded + n } }

/-- Counts stalled transactions that were terminated. -/
def addTerminated (c : Controller) (n : Nat) : Controller :=
  { c with counters := { c.counters with stallsTerminated := c.counters.stallsTerminated + n } }

/-- Counts stalled transactions that were resumed. -/
def addResumed (c : Controller) (n : Nat) : Controller :=
  { c with counters := { c.counters with stallsResumed := c.counters.stallsResumed + n } }

/-- Counts a page request that was taken in. -/
def countPageRequest (c : Controller) : Controller :=
  { c with counters := { c.counters with pageRequests := c.counters.pageRequests + 1 } }

/-- Counts a call to translate. -/
def countTranslation (c : Controller) (success : Bool) : Controller :=
  { c with counters :=
      if success then
        { c.counters with
          translations := c.counters.translations + 1, successes := c.counters.successes + 1 }
      else
        { c.counters with
          translations := c.counters.translations + 1, failures := c.counters.failures + 1 } }

/-! ## Events -/

/-- Queues an event of the controller's own; one that does not fit is counted as dropped. -/
def emit (c : Controller) (e : Event) : Controller :=
  let offered := { c with events := c.events.push { e with timestamp := c.stamp } }
  if c.events.isFull then
    { offered with counters := { c.counters with eventsDropped := c.counters.eventsDropped + 1 } }
  else offered

/-- Takes the queued events and hands them to the sinks. -/
def processEvents (c : Controller) : Controller × List Event :=
  let (sinks, notes) := Sink.deliver c.sinks c.events.entries
  ({ c with events := c.events.clear, sinks, deliveries := c.deliveries ++ notes },
    c.events.entries)

/-- Discards the queued events; the answer is how many. -/
def clearEvents (c : Controller) : Controller × Nat :=
  ({ c with events := c.events.clear }, c.events.size)

/-- Adds a sink behind those there are. -/
def addSink (c : Controller) (s : Sink) : Controller := { c with sinks := c.sinks ++ [s] }

/-- Takes the notes of the recorders. -/
def takeDeliveries (c : Controller) : Controller × List Delivery :=
  ({ c with deliveries := [] }, c.deliveries)

end Controller

end Iommu
