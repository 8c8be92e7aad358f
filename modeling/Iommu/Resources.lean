/-
  Page tables and fault logs that streams refer to by number.

  A stage-2 table or a fault log may serve several streams at once; each is kept here once, under a
  number, so that a change made through one stream is seen by all.  A number that was never written
  stands for the empty table or log.
-/
import Iommu.FaultLog
import Iommu.PageTable

namespace Iommu

/-- Number of a shared page table. -/
abbrev TableId := Nat

/-- Number of a shared fault log. -/
abbrev LogId := Nat

/-- The shared tables and logs. -/
structure Resources where
  tables : Std.ExtTreeMap TableId PageTable
  logs : Std.ExtTreeMap LogId FaultLog
deriving DecidableEq

namespace Resources

/-- No table and no log was ever written. -/
def empty : Resources := ⟨∅, ∅⟩

/-- A shared table; one that was never written is empty. -/
def table (r : Resources) (id : TableId) : PageTable := r.tables.getD id .empty

/-- Writes a shared table. -/
def setTable (r : Resources) (id : TableId) (t : PageTable) : Resources :=
  { r with tables := r.tables.insert id t }

/-- A shared log; one that was never written is empty. -/
def log (r : Resources) (id : LogId) : FaultLog := r.logs.getD id default

/-- Writes a shared log. -/
def setLog (r : Resources) (id : LogId) (l : FaultLog) : Resources :=
  { r with logs := r.logs.insert id l }

/-- Records a fault in a log, if one is named. -/
def record (r : Resources) (id : Option LogId) (f : FaultRecord) : Resources :=
  match id with
  | none => r
  | some id => r.setLog id ((r.log id).record f).1

/-- A table that is written is the one read under its number, and no other is touched. -/
theorem table_setTable (r : Resources) (i j : TableId) (t : PageTable) :
    (r.setTable i t).table j = if i = j then t else r.table j := by
  by_cases h : i = j <;> simp [table, setTable, Std.ExtTreeMap.getD_insert, h]

/-- Recording a fault changes no table. -/
theorem table_record (r : Resources) (id : Option LogId) (f : FaultRecord) (j : TableId) :
    (r.record id f).table j = r.table j := by
  cases id <;> rfl

end Resources

end Iommu
