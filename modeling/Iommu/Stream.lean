/-
  Streams: the address spaces of one device.

  A stream keeps its configuration, its limits, a page table for each PASID, and the numbers of the
  stage-2 table and the fault log attached to it.  Every operation here either refuses with an error
  or answers the stream after it; what it refuses for is tested in the order in which the functions
  state it.
-/
import Iommu.Resources
import Iommu.Stream.Config

namespace Iommu

/-- A stream. -/
structure Stream where
  id : StreamId
  config : StreamConfig
  limits : StreamLimits
  enabled : Bool
  /-- The stage-1 table of each PASID. -/
  pasids : Std.ExtTreeMap Pasid PageTable
  /-- The stage-2 table. -/
  table : Option TableId
  /-- The log that receives the stream's faults. -/
  log : Option LogId
  translations : Nat
  successes : Nat
  faults : Nat
deriving DecidableEq

namespace Stream

/-- A new stream, enabled and without PASIDs. -/
def create (id : StreamId) (config : StreamConfig) (limits : StreamLimits) : Except Error Stream :=
  if config.isValid then
    .ok { id, config, limits, enabled := true, pasids := ∅, table := none, log := none,
          translations := 0, successes := 0, faults := 0 }
  else
    .error (.misconfigured (.noStage id))

/-! ## Configuration -/

/-- Replaces the configuration; PASIDs, tables and the enabled flag stay. -/
def configure (s : Stream) (config : StreamConfig) : Except Error Stream :=
  if config.isValid then .ok { s with config } else .error (.misconfigured (.noStage s.id))

/-- Replaces the fault mode and nothing else of the configuration. -/
def setFaultMode (s : Stream) (mode : FaultMode) : Stream :=
  { s with config := { s.config with faultMode := mode } }

/-- Replaces the limits, which come from the configuration of the controller. -/
def setLimits (s : Stream) (limits : StreamLimits) : Stream := { s with limits }

/-- Enables the stream or disables it. -/
def setEnabled (s : Stream) (enabled : Bool) : Stream := { s with enabled }

/-- Attaches a stage-2 table by its number, or detaches the one there was. -/
def attachTable (s : Stream) (table : Option TableId) : Stream := { s with table }

/-- Attaches a log by its number, or detaches the one there was. -/
def attachLog (s : Stream) (log : Option LogId) : Stream := { s with log }

/-! ## PASIDs -/

/-- Whether a PASID is in range and permitted. -/
def admitsPasid (s : Stream) (pasid : Pasid) : Bool :=
  pasid ≤ maxPasid && (pasid ≠ 0 || s.limits.allowPasidZero)

/-- Whether there is a PASID. -/
def hasPasid (s : Stream) (pasid : Pasid) : Bool := s.pasids.contains pasid

/-- How many PASIDs there are. -/
def pasidCount (s : Stream) : Nat := s.pasids.size

/-- The page table of a PASID. -/
def pasidTable (s : Stream) (pasid : Pasid) : Except Error PageTable :=
  match s.pasids[pasid]? with
  | some t => .ok t
  | none => .error (.pasidNotFound s.id pasid)

/-- Replaces the page table of a PASID. -/
def setPasidTable (s : Stream) (pasid : Pasid) (t : PageTable) : Stream :=
  { s with pasids := s.pasids.insert pasid t }

/-- Creates a PASID with an empty table; one that exists keeps its table. -/
def createPasid (s : Stream) (pasid : Pasid) : Except Error Stream :=
  if !s.admitsPasid pasid then .error (.invalidPasid pasid)
  else if s.hasPasid pasid then .ok s
  else if s.limits.maxPasids ≤ s.pasidCount then
    .error (.pasidsExhausted s.id s.limits.maxPasids)
  else .ok (s.setPasidTable pasid .empty)

/-- Drops a PASID and its table. -/
def removePasid (s : Stream) (pasid : Pasid) : Except Error Stream :=
  if s.hasPasid pasid then .ok { s with pasids := s.pasids.erase pasid }
  else .error (.pasidNotFound s.id pasid)

/-- Drops every PASID with its table. -/
def clearPasids (s : Stream) : Stream := { s with pasids := ∅ }

/-! ## Mappings -/

/-- Checks the addresses of a mapping against the widths of the buses. -/
def checkWidths (s : Stream) (m : Mapping) : Except Error Unit :=
  if !fitsIn m.input s.limits.inputBits then
    .error (.invalidAddress m.input s.limits.inputBits)
  else if !fitsIn m.physical s.limits.outputBits then
    .error (.invalidAddress m.physical s.limits.outputBits)
  else .ok ()

/-- Checks mappings in order. -/
def checkAllWidths (s : Stream) : List Mapping → Except Error Unit
  | [] => .ok ()
  | m :: ms =>
    match s.checkWidths m with
    | .error e => .error e
    | .ok () => s.checkAllWidths ms

/-- Maps one page of a PASID. -/
def map (s : Stream) (pasid : Pasid) (m : Mapping) : Except Error Stream :=
  match s.checkWidths m with
  | .error e => .error e
  | .ok () =>
    match s.pasidTable pasid with
    | .error e => .error e
    | .ok t => .ok (s.setPasidTable pasid (t.map m))

/-- Unmaps one page of a PASID; the answer says whether it was mapped. -/
def unmap (s : Stream) (pasid : Pasid) (a : UInt64) : Except Error (Stream × Bool) :=
  match s.pasidTable pasid with
  | .error e => .error e
  | .ok t => .ok (s.setPasidTable pasid (t.unmap a), t.isMapped a)

/-- Maps every page or none. -/
def mapPages (s : Stream) (pasid : Pasid) (ms : List Mapping) : Except Error Stream :=
  match s.checkAllWidths ms with
  | .error e => .error e
  | .ok () =>
    match s.pasidTable pasid with
    | .error e => .error e
    | .ok t =>
      match t.mapPages ms with
      | .error e => .error e
      | .ok t' => .ok (s.setPasidTable pasid t')

/-- Unmaps every page or none. -/
def unmapPages (s : Stream) (pasid : Pasid) (as : List UInt64) : Except Error Stream :=
  match s.pasidTable pasid with
  | .error e => .error e
  | .ok t =>
    match t.unmapPages as with
    | .error e => .error e
    | .ok t' => .ok (s.setPasidTable pasid t')

/-! ## Statistics -/

/-- Counts an attempt to translate. -/
def countTranslation (s : Stream) (success : Bool) : Stream :=
  { s with
    translations := s.translations + 1
    successes := if success then s.successes + 1 else s.successes }

/-- Counts a fault. -/
def countFault (s : Stream) : Stream := { s with faults := s.faults + 1 }

/-- Sets the counters to zero. -/
def resetStatistics (s : Stream) : Stream :=
  { s with translations := 0, successes := 0, faults := 0 }

/-- Counters of a stream together with its state. -/
structure Statistics where
  stream : StreamId
  translations : Nat
  successes : Nat
  faults : Nat
  pasids : Nat
  enabled : Bool
  config : StreamConfig
deriving DecidableEq

/-- The counters and the state they are shown with. -/
def statistics (s : Stream) : Statistics :=
  { stream := s.id, translations := s.translations, successes := s.successes,
    faults := s.faults, pasids := s.pasidCount, enabled := s.enabled, config := s.config }

end Stream

end Iommu
