/-
  What a run of a scenario reports.
-/
import Iommu.Codec.Records
import Iommu.Json.Writer
import Iommu.Scenario.Basic

namespace Iommu.Scenario

/-- The outcome of a translate step. -/
structure TranslationOutcome where
  /-- Position of the step in the scenario. -/
  step : Nat
  transaction : Transaction
  result : Except Error Translation
  mismatch : Option Mismatch

/-- Totals of a replay. -/
structure ReplaySummary where
  threads : Nat
  translations : Nat
  succeeded : Nat
  failed : Nat
deriving DecidableEq

/-- The report of a run. -/
structure Report where
  scenario : Option String
  translations : List TranslationOutcome
  commandReports : List Controller.CommandReport
  responsesQueued : Nat
  events : List Event
  failedExpectations : Nat
  replay : Option ReplaySummary
  statistics : Controller.Statistics

/-! ## Reports as JSON -/

/-- A member that is left out when there is no value. -/
def member? {α : Type} (name : String) (encode : α → Json) : Option α → List (String × Json)
  | none => []
  | some a => [(name, encode a)]

open Codec in
/-- The outcome of one translation, as it stands in the report. -/
def TranslationOutcome.encode (o : TranslationOutcome) : Json :=
  let t := o.transaction
  let translation? := o.result.toOption
  let error? : Option Error := match o.result with
    | .ok _ => none
    | .error e => some e
  .ofFields <|
    [("step", .natural o.step), ("streamId", ofWord32 t.stream), ("pasid", ofWord32 t.pasid),
     ("iova", ofWord64 t.address), ("access", t.access.encode), ("security", t.security.encode)]
    ++ member? "physicalAddress" (fun r : Translation => ofWord64 r.physical) translation?
    ++ [("cacheHit", .bool (translation?.any (·.cacheHit))),
        ("bypassed", .bool (translation?.any (·.bypassed)))]
    ++ member? "error" (fun e : Error => .ofString e.message) error?
    ++ member? "errorKind" (fun e : Error => .ofString e.name) error?
    ++ member? "mismatch" (fun m : Mismatch => .ofString m.message) o.mismatch

/-- The numbers of a replay. -/
def ReplaySummary.encode (s : ReplaySummary) : Json :=
  .ofFields
    [("threads", .natural s.threads), ("translations", .natural s.translations),
     ("succeeded", .natural s.succeeded), ("failed", .natural s.failed)]

/-- The whole report; the replay is left out when there was none. -/
def Report.encode (r : Report) : Json :=
  .ofFields <|
    member? "scenario" Json.ofString r.scenario
    ++ [("translations", .arr (r.translations.map TranslationOutcome.encode)),
        ("commandReports", .arr (r.commandReports.map Controller.CommandReport.encode)),
        ("priResponsesQueued", .natural r.responsesQueued),
        ("events", .arr (r.events.map Event.encode)),
        ("failedExpectations", .natural r.failedExpectations)]
    ++ member? "replay" ReplaySummary.encode r.replay
    ++ [("statistics", r.statistics.encode)]

/-- The report as text. -/
def Report.render (r : Report) : String := r.encode.render

end Iommu.Scenario
