/-
  The records of the controller as JSON.

  Fault records, stream configurations, page requests and commands are read as well as written.  The
  stamp of a command is written and not read: it is given when the command is queued.  Events,
  stalls and the counters are only written.
-/
import Iommu.Codec.Names
import Iommu.Controller.Commands
import Iommu.Decimal.Shortest

namespace Iommu

open Codec

/-- A 64-bit number. -/
def Codec.ofWord64 (n : UInt64) : Json := .natural n.toNat

/-- A 32-bit number. -/
def Codec.ofWord32 (n : UInt32) : Json := .natural n.toNat

/-! ## Fault records -/

/-- A fault record with all its members, the stamp included. -/
def FaultRecord.encode (r : FaultRecord) : Json :=
  .ofFields
    [("streamId", ofWord32 r.stream), ("pasid", ofWord32 r.pasid),
     ("address", ofWord64 r.address), ("faultType", r.kind.encode),
     ("accessType", r.access.encode), ("securityState", r.security.encode),
     ("stage", r.stage.encode), ("timestamp", ofWord64 r.timestamp)]

/-- Reads a fault record; every member has to be there. -/
def FaultRecord.decode : Decoder FaultRecord := fun j => do
  let f ← fields ["streamId", "pasid", "address", "faultType", "accessType", "securityState",
    "stage", "timestamp"] false j
  return {
    stream := ← f.required "streamId" word32
    pasid := ← f.required "pasid" word32
    address := ← f.required "address" word64
    kind := ← f.required "faultType" FaultKind.decode
    access := ← f.required "accessType" Access.decode
    security := ← f.required "securityState" Security.decode
    stage := ← f.required "stage" Stage.decode
    timestamp := ← f.required "timestamp" word64 }

/-! ## Stream configurations -/

/-- The configuration of a stream with all its members. -/
def StreamConfig.encode (c : StreamConfig) : Json :=
  .ofFields
    [("translationEnabled", .bool c.translationEnabled), ("stage1Enabled", .bool c.stage1Enabled),
     ("stage2Enabled", .bool c.stage2Enabled), ("faultMode", c.faultMode.encode)]

/-- Reads the configuration of a stream; what is left out has its default. -/
def StreamConfig.decode : Decoder StreamConfig := fun j => do
  let f ← fields ["translationEnabled", "stage1Enabled", "stage2Enabled", "faultMode"] false j
  let d : StreamConfig := default
  return {
    translationEnabled := ← f.optional "translationEnabled" d.translationEnabled bool
    stage1Enabled := ← f.optional "stage1Enabled" d.stage1Enabled bool
    stage2Enabled := ← f.optional "stage2Enabled" d.stage2Enabled bool
    faultMode := ← f.optional "faultMode" d.faultMode FaultMode.decode }

/-! ## Commands -/

/-- A command with all its members, the stamp included. -/
def Command.encode (c : Command) : Json :=
  .ofFields
    [("type", c.kind.encode), ("streamId", ofWord32 c.stream), ("pasid", ofWord32 c.pasid),
     ("startAddress", ofWord64 c.start), ("endAddress", ofWord64 c.stop),
     ("timestamp", ofWord64 c.timestamp)]

/-- Reads a command. Only its kind has to be there, and its stamp is not read. -/
def Command.decode : Decoder Command := fun j => do
  let f ← fields ["type", "streamId", "pasid", "startAddress", "endAddress"] false j
  return {
    kind := ← f.required "type" CommandKind.decode
    stream := ← f.optional "streamId" 0 word32
    pasid := ← f.optional "pasid" 0 word32
    start := ← f.optional "startAddress" 0 word64
    stop := ← f.optional "endAddress" 0 word64
    timestamp := 0 }

/-! ## Page requests -/

/-- A page request with all its members, the stamp included. -/
def PageRequest.encode (r : PageRequest) : Json :=
  .ofFields
    [("streamId", ofWord32 r.stream), ("pasid", ofWord32 r.pasid),
     ("requestedAddress", ofWord64 r.address), ("accessType", r.access.encode),
     ("isLastRequest", .bool r.isLast), ("timestamp", ofWord64 r.timestamp)]

/-- Reads a page request; its stamp alone may be left out. -/
def PageRequest.decode : Decoder PageRequest := fun j => do
  let f ← fields ["streamId", "pasid", "requestedAddress", "accessType", "isLastRequest",
    "timestamp"] false j
  return {
    stream := ← f.required "streamId" word32
    pasid := ← f.required "pasid" word32
    address := ← f.required "requestedAddress" word64
    access := ← f.required "accessType" Access.decode
    isLast := ← f.required "isLastRequest" bool
    timestamp := ← f.optional "timestamp" 0 word64 }

/-! ## Records that are only written -/

/-- An event; one that reports no fault has null in the place of the record. -/
def Event.encode (e : Event) : Json :=
  .ofFields
    [("eventType", e.kind.encode), ("streamId", ofWord32 e.stream), ("pasid", ofWord32 e.pasid),
     ("address", ofWord64 e.address), ("fault", .ofOption FaultRecord.encode e.fault),
     ("timestamp", ofWord64 e.timestamp)]

/-- A stalled transaction with the time at which it was stalled. -/
def Stall.encode (s : Stall) : Json :=
  .ofFields
    [("streamId", ofWord32 s.transaction.stream), ("pasid", ofWord32 s.transaction.pasid),
     ("address", ofWord64 s.transaction.address), ("accessType", s.transaction.access.encode),
     ("securityState", s.transaction.security.encode), ("timestamp", ofWord64 s.timestamp)]

/-- The counters of a stream with its state and its configuration. -/
def Stream.Statistics.encode (s : Stream.Statistics) : Json :=
  .ofFields
    [("streamId", ofWord32 s.stream), ("translations", .natural s.translations),
     ("successfulTranslations", .natural s.successes), ("faults", .natural s.faults),
     ("pasidCount", .natural s.pasids), ("enabled", .bool s.enabled),
     ("config", s.config.encode)]

/-- Rates have a point and a digit on both sides of it, down to a hundred-thousandth. -/
def Tlb.Statistics.rateFormat : Decimal.Format := { lowest := -4, highest := 16, zero := "0.0" }

example : Tlb.Statistics.rateFormat.render ⟨5, -1⟩ = "0.5" := by decide
example : Tlb.Statistics.rateFormat.render ⟨1, 0⟩ = "1.0" := by decide
example : Tlb.Statistics.rateFormat.render ⟨1, -5⟩ = "0.00001" := by decide
example : Tlb.Statistics.rateFormat.render ⟨15, -7⟩ = "1.5e-6" := by decide

/-- The counters of the cache with the rate of hits. -/
def Tlb.Statistics.encode (s : Tlb.Statistics) : Json :=
  .ofFields
    [("hitCount", .natural s.hits), ("missCount", .natural s.misses),
     ("totalLookups", .natural s.lookups),
     ("hitRate", .number (rateFormat.renderFloat s.hitRate)),
     ("currentSize", .natural s.size), ("capacity", .natural s.capacity),
     ("evictions", .natural s.evictions), ("invalidations", .natural s.invalidations)]

/-- All counters of the controller, those of the cache in a record of their own. -/
def Controller.Statistics.encode (s : Controller.Statistics) : Json :=
  let n := s.counters
  .ofFields
    [("totalTranslations", .natural n.translations),
     ("successfulTranslations", .natural n.successes),
     ("failedTranslations", .natural n.failures),
     ("cacheHits", .natural s.cache.hits), ("cacheMisses", .natural s.cache.misses),
     ("faultsRecorded", .natural n.faults),
     ("faultRecordsDiscarded", .natural n.faultsDiscarded),
     ("eventsDropped", .natural n.eventsDropped),
     ("commandsProcessed", .natural n.commandsProcessed),
     ("commandsFailed", .natural n.commandsFailed),
     ("syncCompletions", .natural n.syncCompletions),
     ("priRequestsSubmitted", .natural n.pageRequests),
     ("priResponses", .natural n.pageResponses),
     ("priOverflows", .natural n.pageOverflows),
     ("stallsResumed", .natural n.stallsResumed),
     ("stallsTerminated", .natural n.stallsTerminated),
     ("configuredStreams", .natural s.streams), ("cache", s.cache.encode)]

/-- What a call of the command queue came to. -/
def Controller.CommandReport.encode (r : Controller.CommandReport) : Json :=
  .ofFields
    [("executed", .natural r.executed), ("failed", .natural r.failed),
     ("syncsCompleted", .natural r.syncs), ("syncBlocked", .bool r.blocked)]

end Iommu
