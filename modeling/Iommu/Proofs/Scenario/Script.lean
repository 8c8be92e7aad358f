/-
  A run of a scenario as a script of operations.

  A run that comes to its end has performed one operation of the controller after the other: those that
  set the streams up, one for each step, the calls of the replay, and the last drain (`script`).  So what
  is known of runs of the controller is known of it.  What the run gathers on the way is what these
  operations contribute, each in the state that it finds (`runSteps_eq_ok`).

  The threads of a replay may take turns in any way.  `runInOrder` is the run whose replay makes its
  calls in a given order, and `run` is the case of one thread after the other (`run_eq_runInOrder`).
-/
import Iommu.Proofs.Event.Conservation
import Iommu.Proofs.Request.Conservation
import Iommu.Scenario.Run

namespace Iommu

/-! ## Gathering -/

namespace Controller

variable {α : Type} {f : Controller → Op → List α}

/-- What two lists contribute is what the first does, and then the second from where it left. -/
theorem gather_append (c : Controller) (xs ys : List Op) :
    gather f c (xs ++ ys) = gather f c xs ++ gather f (c.run xs).1 ys := by
  induction xs generalizing c with
  | nil => rfl
  | cons op xs ih => rw [List.cons_append, gather, gather, ih, List.append_assoc, run_cons]

/-- Operations of a kind that contributes nothing. -/
theorem gather_eq_nil {kind : Op → Bool} (hf : ∀ c op, kind op = true → f c op = [])
    (c : Controller) {ops : List Op} (hops : ∀ op ∈ ops, kind op = true) : gather f c ops = [] := by
  induction ops generalizing c with
  | nil => rfl
  | cons op ops ih =>
    rw [List.forall_mem_cons] at hops
    rw [gather, hf c op hops.1, ih _ hops.2, List.append_nil]

/-- The report of an operation that processes commands. -/
def reported (c : Controller) : Op → List CommandReport
  | .processCommands => [c.processCommands.2]
  | _ => []

/-- The commands that an operation queues in answer to page requests. -/
def responded (c : Controller) : Op → List Command
  | .processPageRequests => c.processPageRequests.1.commands.entries.drop c.commands.size
  | _ => []

/-- Responses answer the oldest requests, in order. -/
theorem responded_processPageRequests (c : Controller) :
    c.responded .processPageRequests =
      (c.pageRequests.entries.take c.processPageRequests.2).map c.response := by
  rw [responded, processPageRequests_eq]
  exact List.drop_left

/-- There are as many of them as the operation says. -/
theorem length_responded (c : Controller) :
    (c.responded .processPageRequests).length = c.processPageRequests.2 := by
  rw [responded_processPageRequests, List.length_map, List.length_take, processPageRequests_eq]
  exact Nat.min_eq_left (Nat.min_le_left ..)

end Controller

namespace Scenario

open Controller

/-! ## The script -/

/-- The operation that a step performs. -/
def Step.op : Step → Op
  | translate t _ => .translate t
  | map stream pasid m => .map stream pasid m
  | unmap stream pasid a => .unmap stream pasid a
  | enable stream => .enable stream
  | disable stream => .disable stream
  | command cmd => .submitCommand cmd
  | processCommands => .processCommands
  | processPageRequests => .processPageRequests
  | drainEvents => .processEvents

/-- The operations that create a PASID and map its pages. -/
def PasidSpec.ops (stream : StreamId) (p : PasidSpec) : List Op :=
  .createPasid stream p.pasid :: p.mappings.map (.map stream p.pasid)

/-- The operation that attaches the table a stream names. -/
def tableOps (s : Scenario) (spec : StreamSpec) : List Op :=
  ((spec.table.bind (tableId? s)).map fun id => .attachTable spec.stream (some id)).toList

/-- The operations that set a stream up. -/
def streamOps (s : Scenario) (spec : StreamSpec) : List Op :=
  .configure spec.stream spec.config ::
    (tableOps s spec ++ spec.pasids.flatMap (PasidSpec.ops spec.stream))

/-- The operations that set all streams up. -/
def setUpOps (s : Scenario) : List Op := s.streams.flatMap (streamOps s)

/-- The operations of a run up to a step. -/
def upTo (s : Scenario) (index : Nat) : List Op :=
  setUpOps s ++ (s.steps.take index).map Step.op

/-- The operations of a run whose replay makes its calls in some order. -/
def script (s : Scenario) (order : List Transaction) : List Op :=
  setUpOps s ++ (s.steps.map Step.op ++ (order.map .translate ++ [.processEvents]))

/-- The controller with the tables of a scenario. -/
def prepare (s : Scenario) (c : Controller) : Controller :=
  { c with resources := buildTables s c.resources }

/-! ## Setting up -/

/-- Mappings that are set up are operations of the controller, one for each, -/
theorem setUpMappings_eq_ok {c c' : Controller} {stream : StreamId} {pasid : Pasid}
    {ms : List Mapping} (h : setUpMappings c stream pasid ms = (c', .ok ())) :
    c' = (c.run (ms.map (.map stream pasid))).1 := by
  induction ms generalizing c with
  | nil => exact (Prod.mk.inj h).1.symm
  | cons m ms ih =>
    rw [setUpMappings] at h
    split at h
    · rename_i c₁ hmap
      rw [List.map_cons, run_cons, step, hmap]
      exact ih h
    · cases h

/-- and so are PASIDs, -/
theorem setUpPasids_eq_ok {c c' : Controller} {stream : StreamId} {ps : List PasidSpec}
    (h : setUpPasids c stream ps = (c', .ok ())) :
    c' = (c.run (ps.flatMap (PasidSpec.ops stream))).1 := by
  induction ps generalizing c with
  | nil => exact (Prod.mk.inj h).1.symm
  | cons p ps ih =>
    rw [setUpPasids] at h
    split at h
    · cases h
    · rename_i c₁ hcreate
      split at h
      · cases h
      · rename_i c₂ hmappings
        rw [List.flatMap_cons, PasidSpec.ops, run_append, run_cons, step, hcreate]
        show _ = ((c₁.run _).1.run _).1
        rw [← setUpMappings_eq_ok hmappings]
        exact ih h

/-- the stage-2 table, -/
theorem setUpTable_eq_ok {s : Scenario} {c c' : Controller} {spec : StreamSpec}
    (h : setUpTable s c spec = (c', .ok ())) : c' = (c.run (tableOps s spec)).1 := by
  unfold setUpTable at h
  unfold tableOps
  split at h
  · rename_i hnone
    rw [hnone]
    exact (Prod.mk.inj h).1.symm
  · rename_i name hname
    split at h
    · cases h
    · rename_i id hid
      split at h
      · rename_i c₁ hattach
        rw [hname, Option.bind_some, hid]
        show c' = (c.step (.attachTable spec.stream (some id))).1
        rw [step, hattach]
        exact (Prod.mk.inj h).1.symm
      · cases h

/-- a stream, -/
theorem setUpStream_eq_ok {s : Scenario} {c c' : Controller} {spec : StreamSpec}
    (h : setUpStream s c spec = (c', .ok ())) : c' = (c.run (streamOps s spec)).1 := by
  unfold setUpStream at h
  split at h
  · cases h
  · rename_i c₁ hconfigure
    split at h
    · cases h
    · rename_i c₂ htable
      rw [streamOps, run_cons, run_append, step, hconfigure]
      show _ = ((c₁.run _).1.run _).1
      rw [← setUpTable_eq_ok htable]
      exact setUpPasids_eq_ok h

/-- and all streams. -/
theorem setUpStreams_eq_ok {s : Scenario} {c c' : Controller} {specs : List StreamSpec}
    (h : setUpStreams s c specs = (c', .ok ())) :
    c' = (c.run (specs.flatMap (streamOps s))).1 := by
  induction specs generalizing c with
  | nil => exact (Prod.mk.inj h).1.symm
  | cons spec specs ih =>
    rw [setUpStreams] at h
    split at h
    · cases h
    · rename_i c₁ hstream
      rw [List.flatMap_cons, run_append, ← setUpStream_eq_ok hstream]
      exact ih h

/-! ## Steps -/

/-- The outcome that a step contributes in some state. -/
def Step.outcome? (c : Controller) (index : Nat) : Step → Option TranslationOutcome
  | translate t expect =>
    let result := (c.translate t).2
    some { step := index, transaction := t, result,
           mismatch := expect.bind fun x => x.mismatch? result }
  | _ => none

/-- The outcomes of steps counted from `index`. -/
def outcomes (c : Controller) (index : Nat) : List Step → List TranslationOutcome
  | [] => []
  | step :: rest => (step.outcome? c index).toList ++ outcomes (c.step step.op).1 (index + 1) rest

/-- What was gathered before and what one step adds. -/
def Gathered.add (g : Gathered) (c : Controller) (index : Nat) (step : Step) : Gathered :=
  { translations := (step.outcome? c index).toList.reverse ++ g.translations
    commandReports := (c.reported step.op).reverse ++ g.commandReports
    responsesQueued := g.responsesQueued + (c.responded step.op).length
    events := (c.released step.op).reverse ++ g.events
    failedExpectations := g.failedExpectations +
      (step.outcome? c index).toList.countP (·.mismatch.isSome) }

/-- An outcome is counted if it was not the expected one. -/
theorem Gathered.addTranslation_eq (g : Gathered) (o : TranslationOutcome) :
    g.addTranslation o =
      { g with
        translations := o :: g.translations
        failedExpectations := g.failedExpectations + [o].countP (·.mismatch.isSome) } := by
  rw [addTranslation, List.countP_singleton]
  cases o.mismatch.isSome <;> rfl

/-- A step performs its operation and adds what it contributes. -/
theorem runStep_eq_ok {c c' : Controller} {g g' : Gathered} {index : Nat} {step : Step}
    (h : runStep c g index step = (c', .ok g')) :
    c' = (c.step step.op).1 ∧ g' = g.add c index step := by
  have hproceed : ∀ {r : Except Error Controller}, proceed c g r = (c', .ok g') →
      r = .ok c' ∧ g' = g := by
    intro r hr
    unfold proceed at hr
    split at hr
    · cases hr
      exact ⟨rfl, rfl⟩
    · cases hr
  cases step with
  | translate t expect =>
    cases h
    exact ⟨rfl, Gathered.addTranslation_eq ..⟩
  | map stream pasid m =>
    obtain ⟨hmap, rfl⟩ := hproceed h
    exact ⟨by rw [Step.op, Controller.step, hmap]; rfl, rfl⟩
  | unmap stream pasid a =>
    obtain ⟨hunmap, rfl⟩ := hproceed h
    refine ⟨?_, rfl⟩
    cases hr : c.unmap stream pasid a with
    | error e =>
      rw [hr] at hunmap
      cases hunmap
    | ok x =>
      rw [hr] at hunmap
      rw [Step.op, Controller.step, hr]
      exact (Except.ok.inj hunmap).symm
  | enable stream =>
    obtain ⟨henable, rfl⟩ := hproceed h
    exact ⟨by rw [Step.op, Controller.step, henable]; rfl, rfl⟩
  | disable stream =>
    obtain ⟨hdisable, rfl⟩ := hproceed h
    exact ⟨by rw [Step.op, Controller.step, hdisable]; rfl, rfl⟩
  | command cmd =>
    rw [runStep] at h
    split at h
    · rename_i c₁ hsubmit
      cases h
      exact ⟨by rw [Step.op, Controller.step, hsubmit], rfl⟩
    · cases h
  | processCommands =>
    cases h
    exact ⟨rfl, rfl⟩
  | processPageRequests =>
    cases h
    refine ⟨rfl, ?_⟩
    rw [Gathered.add, Step.op, length_responded]
    rfl
  | drainEvents =>
    cases h
    exact ⟨rfl, rfl⟩

/-- Between two states of the gathering some steps were performed. -/
structure Collects (c : Controller) (index : Nat) (steps : List Step) (g g' : Gathered) : Prop where
  translations : g'.translations.reverse = g.translations.reverse ++ outcomes c index steps
  commandReports : g'.commandReports.reverse =
    g.commandReports.reverse ++ gather reported c (steps.map Step.op)
  responsesQueued : g'.responsesQueued =
    g.responsesQueued + (gather responded c (steps.map Step.op)).length
  events : g'.events.reverse = g.events.reverse ++ gather released c (steps.map Step.op)
  failedExpectations : g'.failedExpectations =
    g.failedExpectations + (outcomes c index steps).countP (·.mismatch.isSome)

/-- The steps perform their operations, and what they contribute is gathered. -/
theorem runSteps_eq_ok {c c' : Controller} {g g' : Gathered} {index : Nat} {steps : List Step}
    (h : runSteps c g index steps = (c', .ok g')) :
    c' = (c.run (steps.map Step.op)).1 ∧ Collects c index steps g g' := by
  induction steps generalizing c g index with
  | nil =>
    cases h
    exact ⟨rfl, (List.append_nil _).symm, (List.append_nil _).symm, rfl, (List.append_nil _).symm,
      rfl⟩
  | cons step rest ih =>
    rw [runSteps] at h
    split at h
    · cases h
    · rename_i c₁ g₁ hstep
      obtain ⟨rfl, rfl⟩ := runStep_eq_ok hstep
      obtain ⟨hc, hrest⟩ := ih h
      refine ⟨hc, ?_, ?_, ?_, ?_, ?_⟩
      · rw [hrest.translations, Gathered.add, outcomes, List.reverse_append, List.reverse_reverse,
          List.append_assoc]
      · rw [hrest.commandReports, Gathered.add, List.map_cons, gather, List.reverse_append,
          List.reverse_reverse, List.append_assoc]
      · rw [hrest.responsesQueued, Gathered.add, List.map_cons, gather, List.length_append,
          Nat.add_assoc]
      · rw [hrest.events, Gathered.add, List.map_cons, gather, List.reverse_append,
          List.reverse_reverse, List.append_assoc]
      · rw [hrest.failedExpectations, Gathered.add, outcomes, List.countP_append, Nat.add_assoc]

/-- Each outcome is that of its step in the state which the steps before it leave. -/
theorem outcomes_eq (c : Controller) (index : Nat) (steps : List Step) :
    outcomes c index steps = (steps.zipIdx index).filterMap fun x =>
      x.1.outcome? (c.run ((steps.take (x.2 - index)).map Step.op)).1 x.2 := by
  induction steps generalizing c index with
  | nil => rfl
  | cons step rest ih =>
    rw [outcomes, List.zipIdx_cons, List.filterMap_cons, Nat.sub_self, ih]
    have hrest : ∀ x ∈ rest.zipIdx (index + 1),
        x.1.outcome? ((c.step step.op).1.run ((rest.take (x.2 - (index + 1))).map Step.op)).1 x.2 =
          x.1.outcome? (c.run (((step :: rest).take (x.2 - index)).map Step.op)).1 x.2 := by
      intro x hx
      have hle := List.le_snd_of_mem_zipIdx hx
      have hi : x.2 - index = x.2 - (index + 1) + 1 := by omega
      rw [hi, List.take_succ_cons, List.map_cons, run_cons]
    rw [List.filterMap_congr hrest]
    have hhead : (c.run ((List.take 0 (step :: rest)).map Step.op)).1 = c := rfl
    rw [hhead]
    dsimp only
    cases step.outcome? c index <;> rfl

/-! ## The replay -/

/-- The calls of a replay, one thread after the other. -/
def rounds (steps : List Step) (threads : Nat) : List Transaction :=
  (List.replicate threads (steps.filterMap Step.transaction?)).flatten

/-- Replays every translate step once for each thread, with the calls of the threads in some order. -/
def replayInOrder (c : Controller) (steps : List Step) (threads : Nat)
    (order : List Transaction) : Controller × ReplaySummary :=
  let (c, succeeded, failed) := order.foldl replayOne (c, 0, 0)
  (c, { threads, translations := threads * (steps.filterMap Step.transaction?).length, succeeded,
        failed })

/-- Rounds of a replay are calls, one after the other. -/
theorem replayRounds_eq (ts : List Transaction) (threads : Nat) (acc : Controller × Nat × Nat) :
    replayRounds ts threads acc = (List.replicate threads ts).flatten.foldl replayOne acc := by
  induction threads generalizing acc with
  | zero => rfl
  | succ n ih => rw [replayRounds, ih, List.replicate_succ, List.flatten_cons, List.foldl_append]

theorem replay_eq (c : Controller) (steps : List Step) (threads : Nat) :
    replay c steps threads = replayInOrder c steps threads (rounds steps threads) := by
  rw [replay, replayRounds_eq]
  rfl

/-- A replay performs its calls, and counts as failed those that leave a record. -/
theorem foldl_replayOne (order : List Transaction) (c : Controller) (succeeded failed : Nat) :
    (order.foldl replayOne (c, succeeded, failed)).1 = (c.run (order.map .translate)).1 ∧
      (order.foldl replayOne (c, succeeded, failed)).2.2 =
        failed + (gather recorded c (order.map .translate)).length ∧
      (order.foldl replayOne (c, succeeded, failed)).2.1 +
        (order.foldl replayOne (c, succeeded, failed)).2.2 = succeeded + failed + order.length := by
  induction order generalizing c succeeded failed with
  | nil => exact ⟨rfl, rfl, rfl⟩
  | cons t order ih =>
    rw [List.foldl_cons, replayOne, List.map_cons, run_cons, gather, recorded, List.length_append,
      List.length_cons]
    have hstep : (c.step (.translate t)).1 = (c.translate t).1 := rfl
    rw [hstep]
    cases hcall : c.translate t with
    | mk c₁ result =>
      cases result with
      | ok r =>
        obtain ⟨hc, hfailed, htotal⟩ := ih c₁ (succeeded + 1) failed
        refine ⟨hc, ?_, ?_⟩
        · rw [hfailed]
          simp
        · rw [htotal]
          omega
      | error e =>
        obtain ⟨hc, hfailed, htotal⟩ := ih c₁ succeeded (failed + 1)
        refine ⟨hc, ?_, ?_⟩
        · rw [hfailed]
          simp
          omega
        · rw [htotal]
          omega

/-! ## The whole run -/

/-- The report of a run that came to its end, with the calls of the replay in some order. -/
def finishInOrder (s : Scenario) (c : Controller) (g : Gathered) (threads : Nat)
    (order : List Transaction) : Controller × Report :=
  let (c, replayed) :=
    if threads = 0 then (c, none)
    else
      let (c, summary) := replayInOrder c s.steps threads order
      (c, some summary)
  let (c, events) := c.processEvents
  let g := g.addEvents events
  (c, { scenario := s.name
        translations := g.translations.reverse
        commandReports := g.commandReports.reverse
        responsesQueued := g.responsesQueued
        events := g.events.reverse
        failedExpectations := g.failedExpectations
        replay := replayed
        statistics := c.statistics })

/-- Runs a scenario with the calls of the replay in some order. -/
def runInOrder (s : Scenario) (c : Controller) (threads : Nat) (order : List Transaction) :
    Controller × Except RunError Report :=
  match setUpStreams s (prepare s c) s.streams with
  | (c, .error e) => (c, .error e)
  | (c, .ok ()) =>
    match runSteps c .empty 0 s.steps with
    | (c, .error e) => (c, .error e)
    | (c, .ok g) =>
      let (c, report) := finishInOrder s c g threads order
      (c, .ok report)

/-- A run ends as a replay in the order of the rounds does. -/
theorem finish_eq_finishInOrder (s : Scenario) (c : Controller) (g : Gathered) (threads : Nat) :
    finish s c g threads = finishInOrder s c g threads (rounds s.steps threads) := by
  unfold finish finishInOrder
  rw [replay_eq]

/-- A run replays for one thread after the other. -/
theorem run_eq_runInOrder (s : Scenario) (c : Controller) (threads : Nat) :
    run s c threads = runInOrder s c threads (rounds s.steps threads) := by
  have hfinish : finish s = fun c g n => finishInOrder s c g n (rounds s.steps n) := by
    funext c g n
    exact finish_eq_finishInOrder s c g n
  unfold run
  rw [hfinish]
  rfl

end Scenario

end Iommu
