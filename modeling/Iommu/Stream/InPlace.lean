/-
  Tables and streams changed where they are.

  A table and a stream exist once, and an operation on them tests and writes in a certain order.  Here each
  operation is the action that does so, step by step: a bulk operation goes through its list once to test
  and once more to write, a mapping is tested against the buses before the PASID is looked up, and a PASID
  is taken out before it is known whether it was there.  What the operations amount to as functions, to the
  next state or to an error, is what `PageTable` and `Stream` say of them.
-/
import Iommu.Action
import Iommu.Stream

namespace Iommu

/-! ## Page tables -/

namespace PageTable.InPlace

/-- Maps a page, over whatever was there. -/
def map (m : Mapping) : Action PageTable Unit := modify (·.map m)

/-- Unmaps the page of an address; the answer says whether it was mapped. -/
def unmap (a : UInt64) : Action PageTable Bool := do
  let t ← get
  set (t.unmap a)
  return t.isMapped a

/-- Goes through mappings until a page occurs again, with the pages seen so far. -/
def checkRepeats (seen : List UInt64) : List Mapping → Action PageTable Unit
  | [] => pure ()
  | m :: ms =>
    if m.page ∈ seen then throw (.pageAlreadyMapped m.page) else checkRepeats (m.page :: seen) ms

/-- Maps pages one after the other, once none of them was found to occur twice. -/
def mapPages (ms : List Mapping) : Action PageTable Unit := do
  checkRepeats [] ms
  ms.forM map

/-- Goes through addresses until a page is not mapped. -/
def checkMapped : List UInt64 → Action PageTable Unit
  | [] => pure ()
  | a :: as => do
    let t ← get
    if t.isMapped a then checkMapped as else throw (.pageNotMapped a)

/-- Unmaps pages one after the other, once all of them were found to be mapped. -/
def unmapPages (as : List UInt64) : Action PageTable Unit := do
  checkMapped as
  as.forM fun a => modify (·.unmap a)

/-- A change given as data. -/
def edit : Op → Action PageTable Bool
  | .map m => do
    map m
    return true
  | .unmap a => unmap a
  | .mapPages ms => do
    mapPages ms
    return true
  | .unmapPages as => do
    unmapPages as
    return true
  | .clear => do
    set empty
    return true

end PageTable.InPlace

/-! ## Streams -/

namespace Stream.InPlace

variable {α : Type}

/-- Replaces the configuration; PASIDs, tables and the enabled flag stay. -/
def configure (config : StreamConfig) : Action Stream Unit := do
  let s ← get
  if config.isValid then set { s with config } else throw (.misconfigured (.noStage s.id))

/-- Creates a PASID with an empty table; one that exists keeps its table. -/
def createPasid (pasid : Pasid) : Action Stream Unit := do
  let s ← get
  if !s.admitsPasid pasid then throw (.invalidPasid pasid)
  else if s.hasPasid pasid then pure ()
  else if s.limits.maxPasids ≤ s.pasidCount then
    throw (.pasidsExhausted s.id s.limits.maxPasids)
  else set (s.setPasidTable pasid .empty)

/-- Takes a PASID out together with its table, and fails when there was none to take. -/
def removePasid (pasid : Pasid) : Action Stream Unit := do
  let s ← get
  set { s with pasids := s.pasids.erase pasid }
  if s.hasPasid pasid then pure () else throw (.pasidNotFound s.id pasid)

/-- Does something to the table of a PASID. -/
def onTable (pasid : Pasid) (x : Action PageTable α) : Action Stream α :=
  .within (·.pasidTable pasid) (·.setPasidTable pasid ·) x

/-- Checks the addresses of a mapping against the widths of the buses. -/
def checkWidths (m : Mapping) : Action Stream Unit := do
  let s ← get
  .check (s.checkWidths m)

/-- Maps one page of a PASID. -/
def map (pasid : Pasid) (m : Mapping) : Action Stream Unit := do
  checkWidths m
  onTable pasid (PageTable.InPlace.map m)

/-- Unmaps one page of a PASID; the answer says whether it was mapped. -/
def unmap (pasid : Pasid) (a : UInt64) : Action Stream Bool :=
  onTable pasid (PageTable.InPlace.unmap a)

/-- Maps pages of a PASID: the widths are checked mapping by mapping, then the table tests and writes. -/
def mapPages (pasid : Pasid) (ms : List Mapping) : Action Stream Unit := do
  ms.forM checkWidths
  onTable pasid (PageTable.InPlace.mapPages ms)

/-- Unmaps pages of a PASID. -/
def unmapPages (pasid : Pasid) (as : List UInt64) : Action Stream Unit :=
  onTable pasid (PageTable.InPlace.unmapPages as)

end Stream.InPlace

end Iommu
