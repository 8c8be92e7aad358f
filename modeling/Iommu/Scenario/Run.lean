/-
  Running a scenario.

  The streams are set up in order, then the steps run in order, then the translations may be replayed
  a number of times, and last the events still queued are drained into the report.  The first
  operation that fails ends the run; a translation that fails does not, since its outcome is part of
  the report.
-/
import Iommu.Scenario.Report

namespace Iommu.Scenario

/-- Why a stream could not be set up. -/
inductive SetupError
  | rejected (e : Error)
  | unknownTable (name : String)
  | pasid (pasid : Pasid) (e : Error)
  | mapping (address : UInt64) (pasid : Pasid) (e : Error)
deriving DecidableEq

/-- Why a run ended early. -/
inductive RunError
  | setup (stream : StreamId) (why : SetupError)
  | step (index : Nat) (e : Error)
deriving DecidableEq

open Text (hex quoted)

/-- The causes from the inside of the stream out, as messages. -/
def SetupError.chain : SetupError → List String
  | rejected e => [e.message]
  | unknownTable name => ["unknown stage-2 table " ++ quoted name]
  | pasid p e => ["PASID " ++ hex p.toNat, e.message]
  | mapping a p e => ["mapping " ++ hex a.toNat ++ " on PASID " ++ hex p.toNat, e.message]

/-- The causes, the outermost first, as messages. -/
def RunError.chain : RunError → List String
  | setup stream why => ("failed to configure stream " ++ hex stream.toNat) :: why.chain
  | step index e => ["step " ++ toString index ++ " failed", e.message]

/-- The causes in one line, the outermost first. -/
def RunError.message (e : RunError) : String := ": ".intercalate e.chain

/-! ## Setting up -/

/-- The number under which the table of a name is shared. -/
def tableId? (s : Scenario) (name : String) : Option TableId := s.tables.keys.idxOf? name

/-- The tables of a scenario, numbered in the order of their names. -/
def buildTables (s : Scenario) (r : Resources) : Resources :=
  s.tables.values.zipIdx.foldl
    (fun r (mappings, id) => r.setTable id (mappings.foldl PageTable.map .empty)) r

/-- Maps the pages of a PASID in order. -/
def setUpMappings (c : Controller) (stream : StreamId) (pasid : Pasid) :
    List Mapping → Controller × Except SetupError Unit
  | [] => (c, .ok ())
  | m :: rest =>
    match c.map stream pasid m with
    | .ok c => setUpMappings c stream pasid rest
    | .error e => (c, .error (.mapping m.input pasid e))

/-- Creates the PASIDs of a stream in order. -/
def setUpPasids (c : Controller) (stream : StreamId) :
    List PasidSpec → Controller × Except SetupError Unit
  | [] => (c, .ok ())
  | p :: rest =>
    match c.createPasid stream p.pasid with
    | .error e => (c, .error (.pasid p.pasid e))
    | .ok c =>
      match setUpMappings c stream p.pasid p.mappings with
      | (c, .error e) => (c, .error e)
      | (c, .ok ()) => setUpPasids c stream rest

/-- Attaches the table that a stream names, if it names one. -/
def setUpTable (s : Scenario) (c : Controller) (spec : StreamSpec) :
    Controller × Except SetupError Unit :=
  match spec.table with
  | none => (c, .ok ())
  | some name =>
    match tableId? s name with
    | none => (c, .error (.unknownTable name))
    | some id =>
      match c.attachTable spec.stream (some id) with
      | .ok c => (c, .ok ())
      | .error e => (c, .error (.rejected e))

/-- Sets a stream up. -/
def setUpStream (s : Scenario) (c : Controller) (spec : StreamSpec) :
    Controller × Except SetupError Unit :=
  match c.configure spec.stream spec.config with
  | .error e => (c, .error (.rejected e))
  | .ok c =>
    match setUpTable s c spec with
    | (c, .error e) => (c, .error e)
    | (c, .ok ()) => setUpPasids c spec.stream spec.pasids

/-- Sets streams up in order. -/
def setUpStreams (s : Scenario) (c : Controller) :
    List StreamSpec → Controller × Except RunError Unit
  | [] => (c, .ok ())
  | spec :: rest =>
    match setUpStream s c spec with
    | (c, .error e) => (c, .error (.setup spec.stream e))
    | (c, .ok ()) => setUpStreams s c rest

/-! ## Steps -/

/-- What a run has gathered so far, newest first. -/
structure Gathered where
  translations : List TranslationOutcome
  commandReports : List Controller.CommandReport
  responsesQueued : Nat
  events : List Event
  /-- Translate steps whose outcome was not the expected one. -/
  failedExpectations : Nat

/-- What a run has gathered before its first step. -/
def Gathered.empty : Gathered := ⟨[], [], 0, [], 0⟩

/-- Adds the outcome of a translate step, and counts it if it was not the expected one. -/
def Gathered.addTranslation (g : Gathered) (o : TranslationOutcome) : Gathered :=
  { g with
    translations := o :: g.translations
    failedExpectations :=
      if o.mismatch.isSome then g.failedExpectations + 1 else g.failedExpectations }

/-- Adds events that were drained. -/
def Gathered.addEvents (g : Gathered) (es : List Event) : Gathered :=
  { g with events := es.reverse ++ g.events }

/-- Goes on with a controller that an operation answers. -/
def proceed (c : Controller) (g : Gathered) (r : Except Error Controller) :
    Controller × Except Error Gathered :=
  match r with
  | .ok c' => (c', .ok g)
  | .error e => (c, .error e)

/-- Runs one step. -/
def runStep (c : Controller) (g : Gathered) (index : Nat) :
    Step → Controller × Except Error Gathered
  | .translate t expect =>
    let (c, result) := c.translate t
    let mismatch := expect.bind fun x => x.mismatch? result
    (c, .ok (g.addTranslation { step := index, transaction := t, result, mismatch }))
  | .map stream pasid m => proceed c g (c.map stream pasid m)
  | .unmap stream pasid a => proceed c g ((c.unmap stream pasid a).map (·.1))
  | .enable stream => proceed c g (c.enable stream)
  | .disable stream => proceed c g (c.disable stream)
  | .command cmd =>
    match c.submitCommand cmd with
    | (c, .ok ()) => (c, .ok g)
    | (c, .error e) => (c, .error e)
  | .processCommands =>
    let (c, report) := c.processCommands
    (c, .ok { g with commandReports := report :: g.commandReports })
  | .processPageRequests =>
    let (c, answered) := c.processPageRequests
    (c, .ok { g with responsesQueued := g.responsesQueued + answered })
  | .drainEvents =>
    let (c, events) := c.processEvents
    (c, .ok (g.addEvents events))

/-- Runs steps in order, counting from `index`. -/
def runSteps (c : Controller) (g : Gathered) (index : Nat) :
    List Step → Controller × Except RunError Gathered
  | [] => (c, .ok g)
  | s :: rest =>
    match runStep c g index s with
    | (c, .error e) => (c, .error (.step index e))
    | (c, .ok g) => runSteps c g (index + 1) rest

/-! ## Replay -/

/-- The transaction of a translate step. -/
def Step.transaction? : Step → Option Transaction
  | translate t _ => some t
  | _ => none

/-- Translates once more, counting what comes of it. -/
def replayOne (acc : Controller × Nat × Nat) (t : Transaction) : Controller × Nat × Nat :=
  match acc.1.translate t with
  | (c, .ok _) => (c, acc.2.1 + 1, acc.2.2)
  | (c, .error _) => (c, acc.2.1, acc.2.2 + 1)

/-- Translates a list over and over. -/
def replayRounds (ts : List Transaction) :
    Nat → Controller × Nat × Nat → Controller × Nat × Nat
  | 0, acc => acc
  | rounds + 1, acc => replayRounds ts rounds (ts.foldl replayOne acc)

/-- Replays every translate step, once for each thread. -/
def replay (c : Controller) (steps : List Step) (threads : Nat) : Controller × ReplaySummary :=
  let ts := steps.filterMap Step.transaction?
  let (c, succeeded, failed) := replayRounds ts threads (c, 0, 0)
  (c, { threads, translations := threads * ts.length, succeeded, failed })

/-! ## The whole run -/

/-- The report of a run that came to its end. -/
def finish (s : Scenario) (c : Controller) (g : Gathered) (threads : Nat) : Controller × Report :=
  let (c, replayed) :=
    if threads = 0 then (c, none)
    else
      let (c, summary) := replay c s.steps threads
      (c, some summary)
  let (c, events) := c.processEvents
  let g := g.addEvents events
  (c, { scenario := s.name
        translations := g.translations.reverse
        commandReports := g.commandReports.reverse
        responsesQueued := g.responsesQueued
        events := g.events.reverse
        failedExpectations := g.failedExpectations
        replay := replayed
        statistics := c.statistics })

/-- Runs a scenario on a controller.  The controller answered is the one at the end of the run,
    however it ended. -/
def run (s : Scenario) (c : Controller) (threads : Nat) : Controller × Except RunError Report :=
  let c := { c with resources := buildTables s c.resources }
  match setUpStreams s c s.streams with
  | (c, .error e) => (c, .error e)
  | (c, .ok ()) =>
    match runSteps c .empty 0 s.steps with
    | (c, .error e) => (c, .error e)
    | (c, .ok g) =>
      let (c, report) := finish s c g threads
      (c, .ok report)

end Iommu.Scenario
