/-
  Configurations as JSON.

  Every section and every field may be left out and then has its default.  `Configuration.parse` also
  checks what it read, so that it answers valid configurations only (`problem?_of_parse`).
-/
import Iommu.Codec.Records
import Iommu.Json.Reader
import Iommu.Json.Writer

namespace Iommu.Configuration

open Codec

/-- The sizes of the queues, all of them. -/
def Queues.encode (q : Queues) : Json :=
  .ofFields
    [("eventQueueSize", ofWord64 q.events), ("commandQueueSize", ofWord64 q.commands),
     ("priQueueSize", ofWord64 q.pageRequests), ("faultLogSize", ofWord64 q.faultLog)]

/-- Reads the sizes of the queues; what is left out has its default. -/
def Queues.decode : Decoder Queues := fun j => do
  let f ← fields ["eventQueueSize", "commandQueueSize", "priQueueSize", "faultLogSize"] false j
  let d : Queues := default
  return {
    events := ← f.optional "eventQueueSize" d.events word64
    commands := ← f.optional "commandQueueSize" d.commands word64
    pageRequests := ← f.optional "priQueueSize" d.pageRequests word64
    faultLog := ← f.optional "faultLogSize" d.faultLog word64 }

/-- The settings of the cache, all of them. -/
def Cache.encode (c : Cache) : Json :=
  .ofFields
    [("tlbCacheSize", ofWord64 c.size), ("cacheMaxAgeMs", ofWord64 c.maxAgeMs),
     ("enableCaching", .bool c.enabled)]

/-- Reads the settings of the cache; what is left out has its default. -/
def Cache.decode : Decoder Cache := fun j => do
  let f ← fields ["tlbCacheSize", "cacheMaxAgeMs", "enableCaching"] false j
  let d : Cache := default
  return {
    size := ← f.optional "tlbCacheSize" d.size word64
    maxAgeMs := ← f.optional "cacheMaxAgeMs" d.maxAgeMs word64
    enabled := ← f.optional "enableCaching" d.enabled bool }

/-- The widths of the buses and the sizes of the tables, all of them. -/
def Widths.encode (w : Widths) : Json :=
  .ofFields
    [("maxIovaBits", ofWord32 w.inputBits), ("maxPaBits", ofWord32 w.outputBits),
     ("maxStreamCount", ofWord64 w.streams), ("maxPasidCount", ofWord64 w.pasids)]

/-- Reads the widths of the buses and the sizes of the tables; what is left out has its default. -/
def Widths.decode : Decoder Widths := fun j => do
  let f ← fields ["maxIovaBits", "maxPaBits", "maxStreamCount", "maxPasidCount"] false j
  let d : Widths := default
  return {
    inputBits := ← f.optional "maxIovaBits" d.inputBits word32
    outputBits := ← f.optional "maxPaBits" d.outputBits word32
    streams := ← f.optional "maxStreamCount" d.streams word64
    pasids := ← f.optional "maxPasidCount" d.pasids word64 }

/-- The resource limits, all of them. -/
def Limits.encode (l : Limits) : Json :=
  .ofFields
    [("maxMemoryUsage", ofWord64 l.memory), ("maxThreadCount", ofWord64 l.threads),
     ("timeoutMs", ofWord64 l.timeoutMs), ("enableResourceTracking", .bool l.tracking)]

/-- Reads the resource limits; what is left out has its default. -/
def Limits.decode : Decoder Limits := fun j => do
  let f ← fields ["maxMemoryUsage", "maxThreadCount", "timeoutMs", "enableResourceTracking"]
    false j
  let d : Limits := default
  return {
    memory := ← f.optional "maxMemoryUsage" d.memory word64
    threads := ← f.optional "maxThreadCount" d.threads word64
    timeoutMs := ← f.optional "timeoutMs" d.timeoutMs word64
    tracking := ← f.optional "enableResourceTracking" d.tracking bool }

/-- The configuration in its sections, all of them. -/
def encode (c : Configuration) : Json :=
  .ofFields
    [("queue", c.queues.encode), ("cache", c.cache.encode), ("address", c.widths.encode),
     ("limits", c.limits.encode), ("allowPasidZero", .bool c.allowPasidZero)]

/-- Reads a configuration; a section that is left out has its default. -/
def decode : Decoder Configuration := fun j => do
  let f ← fields ["queue", "cache", "address", "limits", "allowPasidZero"] false j
  let d : Configuration := default
  return {
    queues := ← f.optional "queue" d.queues Queues.decode
    cache := ← f.optional "cache" d.cache Cache.decode
    widths := ← f.optional "address" d.widths Widths.decode
    limits := ← f.optional "limits" d.limits Limits.decode
    allowPasidZero := ← f.optional "allowPasidZero" d.allowPasidZero bool }

/-! ## Documents -/

/-- Why a text is not a configuration that can be used. -/
inductive LoadError
  /-- The text is no JSON document. -/
  | malformed
  | decode (why : DecodeError)
  | setting (problem : Problem)
deriving DecidableEq

/-- The message of a text that is refused. -/
def LoadError.message : LoadError → String
  | malformed => "malformed configuration: not a JSON document"
  | decode why => "malformed configuration: " ++ why.message
  | setting problem => problem.message

/-- The configuration as a document. -/
def render (c : Configuration) : String := c.encode.render

/-- Reads a configuration and checks it. -/
def parse (s : String) : Except LoadError Configuration :=
  match Json.parse? s with
  | none => .error .malformed
  | some j =>
    match decode j with
    | .error e => .error (.decode e)
    | .ok c =>
      match c.problem? with
      | some p => .error (.setting p)
      | none => .ok c

/-- Whatever is read is valid. -/
theorem problem?_of_parse {s : String} {c : Configuration} (h : parse s = .ok c) :
    c.problem? = none := by
  unfold parse at h
  split at h
  · cases h
  · split at h
    · cases h
    · split at h
      · cases h
      · cases h
        assumption

end Iommu.Configuration
