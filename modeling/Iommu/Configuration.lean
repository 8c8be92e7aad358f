/-
  Configuration of the controller: queue sizes, the translation cache, address widths and advisory
  resource limits.

  Every section says what is wrong with it first (`problem?`), in the order of its fields; the whole
  configuration takes its sections in order.  `Valid` is the same condition said at once, and
  `problem?_eq_none` relates the two.  Four presets are given, all valid.
-/
import Iommu.Address

namespace Iommu

namespace Configuration

/-- What can be wrong with a setting. -/
inductive Problem
  | outOfRange (field : String) (value low high : Nat)
  | zero (field : String)
deriving DecidableEq

namespace Problem

/-- The message of a setting that is refused. -/
def message : Problem → String
  | outOfRange field value low high =>
    field ++ " must be between " ++ toString low ++ " and " ++ toString high
      ++ " (got " ++ toString value ++ ")"
  | zero field => field ++ " must be non-zero"

end Problem

/-- A setting that has to lie between two bounds. -/
def bounded (field : String) (value low high : Nat) : Option Problem :=
  if low ≤ value ∧ value ≤ high then none else some (.outOfRange field value low high)

/-- A setting that must not be zero. -/
def nonzero (field : String) (value : Nat) : Option Problem :=
  if value = 0 then some (.zero field) else none

/-- A bounded setting has no problem exactly within its bounds. -/
theorem bounded_eq_none {field : String} {value low high : Nat} :
    bounded field value low high = none ↔ low ≤ value ∧ value ≤ high := by
  simp [bounded]

/-- A setting that must not be zero has no problem exactly if it is none. -/
theorem nonzero_eq_none {field : String} {value : Nat} :
    nonzero field value = none ↔ value ≠ 0 := by
  simp [nonzero]

/-- The largest size of a queue or of the fault log. -/
def maxQueueSize : Nat := 65536

/-- The largest number of cached translations. -/
def maxCacheSize : Nat := 1048576

/-! ## Sections -/

/-- Sizes of the three queues and of the fault log. -/
structure Queues where
  events : UInt64 := 512
  commands : UInt64 := 256
  pageRequests : UInt64 := 128
  faultLog : UInt64 := 1024
deriving DecidableEq, Inhabited

/-- The translation cache. -/
structure Cache where
  size : UInt64 := 1024
  /-- Entries older than this many milliseconds count as absent; zero turns ageing off. -/
  maxAgeMs : UInt64 := 0
  enabled : Bool := true
deriving DecidableEq, Inhabited

/-- Address widths and the sizes of the stream and PASID spaces. -/
structure Widths where
  inputBits : UInt32 := 48
  outputBits : UInt32 := 48
  streams : UInt64 := 256
  /-- PASIDs allowed on each stream. -/
  pasids : UInt64 := 1024
deriving DecidableEq, Inhabited

/-- Advisory limits; nothing here changes a translation. -/
structure Limits where
  memory : UInt64 := 268435456
  threads : UInt64 := 16
  timeoutMs : UInt64 := 1000
  tracking : Bool := false
deriving DecidableEq, Inhabited

/-- The sizes of the queues and of the fault log, in the order of the fields. -/
def Queues.problem? (q : Queues) : Option Problem :=
  bounded "eventQueueSize" q.events.toNat 1 maxQueueSize
    <|> bounded "commandQueueSize" q.commands.toNat 1 maxQueueSize
    <|> bounded "priQueueSize" q.pageRequests.toNat 1 maxQueueSize
    <|> bounded "faultLogSize" q.faultLog.toNat 1 maxQueueSize

/-- The size of the cache; any age limit will do. -/
def Cache.problem? (c : Cache) : Option Problem :=
  bounded "tlbCacheSize" c.size.toNat 1 maxCacheSize

/-- The widths of the buses and the sizes of the tables, in the order of the fields. -/
def Widths.problem? (w : Widths) : Option Problem :=
  bounded "maxIovaBits" w.inputBits.toNat 32 64
    <|> bounded "maxPaBits" w.outputBits.toNat 32 52
    <|> nonzero "maxStreamCount" w.streams.toNat
    <|> bounded "maxPasidCount" w.pasids.toNat 1 (maxPasid.toNat + 1)

/-- The resource limits, none of which may be zero. -/
def Limits.problem? (l : Limits) : Option Problem :=
  nonzero "maxMemoryUsage" l.memory.toNat
    <|> nonzero "maxThreadCount" l.threads.toNat
    <|> nonzero "timeoutMs" l.timeoutMs.toNat

end Configuration

/-- The configuration of a controller. -/
structure Configuration where
  queues : Configuration.Queues := {}
  cache : Configuration.Cache := {}
  widths : Configuration.Widths := {}
  limits : Configuration.Limits := {}
  /-- Whether PASID 0 may be used like any other. -/
  allowPasidZero : Bool := true
deriving DecidableEq, Inhabited

namespace Configuration

/-- The first thing wrong with a configuration. -/
def problem? (c : Configuration) : Option Problem :=
  c.queues.problem? <|> c.cache.problem? <|> c.widths.problem? <|> c.limits.problem?

/-- Every setting is within its bounds. -/
structure Valid (c : Configuration) : Prop where
  events : 1 ≤ c.queues.events.toNat ∧ c.queues.events.toNat ≤ maxQueueSize
  commands : 1 ≤ c.queues.commands.toNat ∧ c.queues.commands.toNat ≤ maxQueueSize
  pageRequests : 1 ≤ c.queues.pageRequests.toNat ∧ c.queues.pageRequests.toNat ≤ maxQueueSize
  faultLog : 1 ≤ c.queues.faultLog.toNat ∧ c.queues.faultLog.toNat ≤ maxQueueSize
  cacheSize : 1 ≤ c.cache.size.toNat ∧ c.cache.size.toNat ≤ maxCacheSize
  inputBits : 32 ≤ c.widths.inputBits.toNat ∧ c.widths.inputBits.toNat ≤ 64
  outputBits : 32 ≤ c.widths.outputBits.toNat ∧ c.widths.outputBits.toNat ≤ 52
  streams : c.widths.streams.toNat ≠ 0
  pasids : 1 ≤ c.widths.pasids.toNat ∧ c.widths.pasids.toNat ≤ maxPasid.toNat + 1
  memory : c.limits.memory.toNat ≠ 0
  threads : c.limits.threads.toNat ≠ 0
  timeoutMs : c.limits.timeoutMs.toNat ≠ 0

/-- The checks made one after the other are the bounds taken together. -/
theorem problem?_eq_none {c : Configuration} : c.problem? = none ↔ c.Valid := by
  simp only [problem?, Queues.problem?, Cache.problem?, Widths.problem?, Limits.problem?,
    Option.orElse_eq_orElse, Option.orElse_eq_or, Option.or_eq_none_iff, bounded_eq_none,
    nonzero_eq_none]
  constructor
  · rintro ⟨⟨h1, h2, h3, h4⟩, h5, ⟨h6, h7, h8, h9⟩, h10, h11, h12⟩
    exact ⟨h1, h2, h3, h4, h5, h6, h7, h8, h9, h10, h11, h12⟩
  · rintro ⟨h1, h2, h3, h4, h5, h6, h7, h8, h9, h10, h11, h12⟩
    exact ⟨⟨h1, h2, h3, h4⟩, h5, ⟨h6, h7, h8, h9⟩, h10, h11, h12⟩

/-! ## Presets -/

/-- The configurations that come with the program. -/
inductive Preset
  | standard
  | highPerformance
  | minimal
  | development
deriving DecidableEq

namespace Preset

/-- The presets, in the order in which their names are tried. -/
def all : List Preset := [standard, highPerformance, minimal, development]

/-- The name by which a preset is chosen. -/
def name : Preset → String
  | standard => "default"
  | highPerformance => "high-performance"
  | minimal => "minimal"
  | development => "development"

/-- The preset of a name. -/
def ofName? (s : String) : Option Preset := all.find? fun p => p.name == s

/-- The name of a preset leads back to it. -/
theorem ofName?_name (p : Preset) : ofName? p.name = some p := by cases p <;> decide

end Preset

/-- The configuration a preset stands for. -/
def ofPreset : Preset → Configuration
  | .standard => {}
  | .highPerformance =>
    { queues := { events := 4096, commands := 2048, pageRequests := 1024, faultLog := 8192 }
      cache := { size := 16384 }
      widths := { inputBits := 48, outputBits := 52, streams := 4096, pasids := 65536 }
      limits := { memory := 2147483648, threads := 64, timeoutMs := 5000 } }
  | .minimal =>
    { queues := { events := 16, commands := 16, pageRequests := 8, faultLog := 64 }
      cache := { size := 64 }
      widths := { inputBits := 32, outputBits := 32, streams := 16, pasids := 16 }
      limits := { memory := 16777216, threads := 2, timeoutMs := 100 } }
  | .development =>
    { limits := { tracking := true }, allowPasidZero := false }

/-- Every preset passes the checks. -/
theorem problem?_ofPreset (p : Preset) : (ofPreset p).problem? = none := by
  cases p <;> decide

end Configuration

end Iommu
