/-
  Scenarios: streams to set up, steps to run, and what the translations among them should give.
-/
import Iommu.Controller.Step

namespace Iommu.Scenario

/-- A PASID and the pages mapped on it. -/
structure PasidSpec where
  pasid : Pasid
  mappings : List Mapping
deriving DecidableEq

/-- A stream to set up. -/
structure StreamSpec where
  stream : StreamId
  config : StreamConfig
  /-- Name of the stage-2 table. -/
  table : Option String
  pasids : List PasidSpec
deriving DecidableEq

/-- What a translation should give.  Parts left out are not checked. -/
structure Expectation where
  physical : Option UInt64
  /-- Name of the error. -/
  error : Option String
  cacheHit : Option Bool
deriving DecidableEq

/-- A step of a scenario. -/
inductive Step
  | translate (t : Transaction) (expect : Option Expectation)
  | map (stream : StreamId) (pasid : Pasid) (m : Mapping)
  | unmap (stream : StreamId) (pasid : Pasid) (a : UInt64)
  | enable (stream : StreamId)
  | disable (stream : StreamId)
  | command (cmd : Command)
  | processCommands
  | processPageRequests
  | drainEvents
deriving DecidableEq

/-! ## Checking expectations -/

/-- The way in which a translation differs from what was expected. -/
inductive Mismatch
  | address (expected got : UInt64)
  | cacheHit (expected got : Bool)
  | noError (expected : String) (got : UInt64)
  | otherError (expected got : String)
  | unexpectedError (e : Error)
deriving DecidableEq

open Text (hex) in
/-- What was expected and what came instead. -/
def Mismatch.message : Mismatch → String
  | address expected got =>
    "expected pa " ++ hex expected.toNat ++ ", got " ++ hex got.toNat
  | cacheHit expected got => "expected cacheHit=" ++ toString expected ++ ", got " ++ toString got
  | noError expected got => "expected " ++ expected ++ ", translated to " ++ hex got.toNat
  | otherError expected got => "expected " ++ expected ++ ", got " ++ got
  | unexpectedError e => "unexpected error: " ++ e.message

/-- The first difference between a translation and what was expected. -/
def Expectation.mismatch? (x : Expectation) (r : Except Error Translation) : Option Mismatch :=
  match r, x.error with
  | .ok t, none =>
    match x.physical.filter (· ≠ t.physical), x.cacheHit.filter (· ≠ t.cacheHit) with
    | some a, _ => some (.address a t.physical)
    | none, some b => some (.cacheHit b t.cacheHit)
    | none, none => none
  | .ok t, some name => some (.noError name t.physical)
  | .error e, some name => if e.name = name then none else some (.otherError name e.name)
  | .error e, none => some (.unexpectedError e)

end Iommu.Scenario

namespace Iommu

/-- A scenario. -/
structure Scenario where
  name : Option String
  /-- The stage-2 tables by name, each as the mappings written into it in order. -/
  tables : Std.ExtTreeMap String (List Mapping)
  streams : List Scenario.StreamSpec
  steps : List Scenario.Step
deriving DecidableEq

end Iommu
