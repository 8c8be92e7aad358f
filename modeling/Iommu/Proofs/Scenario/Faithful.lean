/-
  A report says what happened in the run.

  A run is a script of operations (`script`), so the books that the controller keeps of any run are those
  of this one: every event taken is returned or queued (`conserves_run`), and every call to translate is
  counted once and leaves a record exactly if it fails (`booked_run`).  The runner counts calls by their
  results and the controller by its records, and both count the same (`countP_outcomes`,
  `foldl_replayOne`).  Since the last operation empties the queue, the events returned on the way and at
  the end are all that the queue took.

  `Faithful` puts this together for a report, for any order in which the threads of the replay make
  their calls.
-/
import Iommu.Proofs.Scenario.Script

namespace Iommu

/-- Nothing was done on the controller yet.  The clock may show any time, and sinks may listen. -/
def Controller.Pristine (c : Controller) : Prop :=
  ∃ config sinks deliveries resources clock, c = start config sinks deliveries resources clock

/-- A new controller has counted nothing. -/
theorem Controller.pristine_of_create {config : Configuration} {c : Controller}
    (h : create config = .ok c) : c.Pristine :=
  ⟨config, [], [], .empty, 0, (create_eq_ok h).2⟩

namespace Scenario

open Controller

/-! ## What the parts of a script contribute -/

/-- Whether an operation is one of those that set streams up. -/
def builds : Op → Bool
  | .configure _ _ => true
  | .attachTable _ _ => true
  | .createPasid _ _ => true
  | .map _ _ _ => true
  | _ => false

/-- Setting up translates nothing. -/
theorem translates_of_builds {op : Op} (h : builds op = true) : op.translates = false := by
  cases op <;> first | rfl | cases h

/-- Streams are set up by operations that build. -/
theorem builds_setUpOps (s : Scenario) : ∀ op ∈ setUpOps s, builds op = true := by
  have hpasids : ∀ stream, ∀ p : PasidSpec, ∀ op ∈ p.ops stream, builds op = true := by
    intro stream p op hop
    rcases List.mem_cons.1 hop with rfl | hop
    · rfl
    · obtain ⟨m, -, rfl⟩ := List.mem_map.1 hop
      rfl
  intro op hop
  obtain ⟨spec, -, hop⟩ := List.mem_flatMap.1 hop
  rcases List.mem_cons.1 hop with rfl | hop
  · rfl
  rcases List.mem_append.1 hop with hop | hop
  · obtain ⟨id, -, rfl⟩ := Option.map_eq_some_iff.1 (Option.mem_toList.1 hop)
    rfl
  · obtain ⟨p, -, hop⟩ := List.mem_flatMap.1 hop
    exact hpasids spec.stream p op hop

/-- A replay does nothing but translate. -/
theorem translates_order (order : List Transaction) :
    ∀ op ∈ order.map Op.translate, op.translates = true := by
  intro op hop
  obtain ⟨t, -, rfl⟩ := List.mem_map.1 hop
  rfl

/-- No part of a script resets anything. -/
theorem not_mem_script {op : Op} (hop : op = .reset ∨ op = .resetStatistics) (s : Scenario)
    (order : List Transaction) : op ∉ script s order := by
  intro hmem
  rcases List.mem_append.1 hmem with hmem | hmem
  · have hbuilds := builds_setUpOps s op hmem
    rcases hop with rfl | rfl <;> cases hbuilds
  rcases List.mem_append.1 hmem with hmem | hmem
  · obtain ⟨step, -, rfl⟩ := List.mem_map.1 hmem
    cases step <;> rcases hop with hop | hop <;> cases hop
  rcases List.mem_append.1 hmem with hmem | hmem
  · have htranslates := translates_order order op hmem
    rcases hop with rfl | rfl <;> cases htranslates
  · rw [List.mem_singleton] at hmem
    rcases hop with rfl | rfl <;> cases hmem

/-- Only steps contribute, or the last drain, and among the steps no call to translate. -/
def Sparse {α : Type} (f : Controller → Op → List α) : Prop :=
  ∀ c op, (builds op || op.translates) = true → f c op = []

/-- Only calls to the command queue report. -/
theorem sparse_reported : Sparse reported := by
  intro c op h
  cases op <;> first | rfl | cases h

/-- Only processing page requests responds. -/
theorem sparse_responded : Sparse responded := by
  intro c op h
  cases op <;> first | rfl | cases h

/-- Only draining releases events. -/
theorem sparse_released : Sparse released := by
  intro c op h
  cases op <;> first | rfl | cases h

/-- A script gathers what its steps contribute, and its last drain. -/
theorem gather_script {α : Type} {f : Controller → Op → List α} (hf : Sparse f) (s : Scenario)
    (c : Controller) (order : List Transaction) :
    gather f c (script s order) = gather f (c.run (setUpOps s)).1 (s.steps.map Step.op) ++
      f ((c.run (upTo s s.steps.length)).1.run (order.map .translate)).1 .processEvents := by
  have hsetUp : gather f c (setUpOps s) = [] :=
    gather_eq_nil hf c fun op hop => by rw [builds_setUpOps s op hop, Bool.true_or]
  have hreplay : ∀ c, gather f c (order.map .translate) = [] := fun c =>
    gather_eq_nil hf c fun op hop => by rw [translates_order order op hop, Bool.or_true]
  rw [script, gather_append, gather_append, gather_append, hsetUp, hreplay, List.nil_append,
    List.nil_append, gather, gather, List.append_nil, upTo, List.take_length, run_append]

/-- The records of a script are those of its steps and those of the replay. -/
theorem gather_recorded_script (s : Scenario) (c : Controller) (order : List Transaction) :
    gather recorded c (script s order) =
      gather recorded (c.run (setUpOps s)).1 (s.steps.map Step.op) ++
        gather recorded (c.run (upTo s s.steps.length)).1 (order.map .translate) := by
  have hbuilds : ∀ (c : Controller) op, builds op = true → c.recorded op = [] := by
    intro c op hop
    cases op <;> first | rfl | cases hop
  have hlast : ∀ c : Controller, gather recorded c [.processEvents] = [] := fun _ => rfl
  rw [script, gather_append, gather_append, gather_append,
    gather_eq_nil hbuilds c (builds_setUpOps s), hlast, List.nil_append, List.append_nil, upTo,
    List.take_length, run_append]

/-! ## Counting calls -/

/-- The number of translate steps. -/
def translateSteps (s : Scenario) : Nat := s.steps.countP fun step => step.transaction?.isSome

/-- A replay repeats the translations once for each thread. -/
theorem length_rounds (s : Scenario) (threads : Nat) :
    (rounds s.steps threads).length = threads * translateSteps s := by
  rw [rounds, List.length_flatten, List.map_replicate, List.sum_replicate_nat,
    List.length_filterMap_eq_countP, translateSteps]

/-- A script translates once for each translating step, and once for each call of the replay. -/
theorem countP_translates_script (s : Scenario) (order : List Transaction) :
    (script s order).countP Op.translates = translateSteps s + order.length := by
  have hbuilds : (setUpOps s).countP Op.translates = 0 := by
    refine List.countP_eq_zero.2 fun op hop htranslates => ?_
    rw [translates_of_builds (builds_setUpOps s op hop)] at htranslates
    cases htranslates
  have hsteps : (s.steps.map Step.op).countP Op.translates = translateSteps s := by
    rw [List.countP_map, translateSteps]
    congr 1
    funext step
    cases step <;> rfl
  have horder : (order.map Op.translate).countP Op.translates = order.length := by
    rw [List.countP_eq_length.2 (translates_order order), List.length_map]
  rw [script, List.countP_append, List.countP_append, List.countP_append, hbuilds, hsteps, horder]
  simp [Op.translates]

/-- A translate step fails exactly if it leaves a record. -/
theorem countP_outcome (c : Controller) (index : Nat) (step : Step) :
    (step.outcome? c index).toList.countP (fun o => !o.result.isOk) =
        (c.recorded step.op).length ∧
      (step.outcome? c index).toList.length = step.transaction?.isSome.toNat := by
  cases step with
  | translate t expect =>
    refine ⟨?_, rfl⟩
    rw [Step.op, recorded, Step.outcome?]
    cases hcall : (c.translate t).2 <;> simp [Except.isOk, Except.toBool]
  | _ => exact ⟨rfl, rfl⟩

/-- Failures and outcomes are as many as the steps that fail and translate. -/
theorem countP_outcomes (c : Controller) (index : Nat) (steps : List Step) :
    (outcomes c index steps).countP (fun o => !o.result.isOk) =
        (gather recorded c (steps.map Step.op)).length ∧
      (outcomes c index steps).length = steps.countP fun step => step.transaction?.isSome := by
  induction steps generalizing c index with
  | nil => exact ⟨rfl, rfl⟩
  | cons step rest ih =>
    obtain ⟨hfailed, hlength⟩ := ih (c.step step.op).1 (index + 1)
    obtain ⟨hfailed', hlength'⟩ := countP_outcome c index step
    rw [outcomes, List.map_cons, gather, List.countP_append, List.length_append,
      List.length_append, hfailed, hfailed', hlength, hlength', List.countP_cons]
    refine ⟨rfl, ?_⟩
    cases step.transaction?.isSome
    · simp
    · simp [Nat.add_comm]

/-! ## Books of a fresh controller -/

/-- A controller on which nothing was done has empty books. -/
theorem pristine_books {c : Controller} (hc : c.Pristine) :
    c.outbox.Conserves [] [] [] ∧ c.ledger.Booked 0 [] := by
  obtain ⟨config, sinks, deliveries, resources, clock, rfl⟩ := hc
  exact ⟨⟨rfl, rfl, rfl, rfl⟩, rfl, rfl, rfl, rfl, ⟨rfl, Nat.le_refl _⟩, Nat.zero_le _⟩

/-- Tables that are filled beforehand are counted nowhere. -/
theorem pristine_prepare {c : Controller} (hc : c.Pristine) (s : Scenario) :
    (prepare s c).Pristine := by
  obtain ⟨config, sinks, deliveries, resources, clock, rfl⟩ := hc
  exact ⟨config, sinks, deliveries, buildTables s resources, clock, rfl⟩

/-! ## Reports -/

/-- What the report of a run says is what happened in it.  The run starts from `c`, its replay makes
    its calls in some order, and it ends in `c'`. -/
structure Faithful (s : Scenario) (c : Controller) (threads : Nat) (order : List Transaction)
    (c' : Controller) (report : Report) : Prop where
  /-- The run performs the operations of its script. -/
  performs : c' = (c.run (script s order)).1
  /-- Every translate step has its outcome, with its index and the answer it got. -/
  translations : report.translations = s.steps.zipIdx.filterMap fun x =>
    x.1.outcome? (c.run (upTo s x.2)).1 x.2
  mismatches : report.failedExpectations = report.translations.countP (·.mismatch.isSome)
  /-- Every step that processes commands has its report. -/
  commandReports : report.commandReports = gather reported c (script s order)
  commandReportsLength : report.commandReports.length = s.steps.count .processCommands
  /-- The responses are counted that were queued. -/
  responses : report.responsesQueued = (gather responded c (script s order)).length
  responsesKind : ∀ cmd ∈ gather responded c (script s order), cmd.kind = .priResp
  /-- The events are all that the queue took, in order. -/
  events : report.events = gather taken c (script s order)
  eventsLength : report.events.length = c'.events.accepted
  drained : c'.events.entries = []
  /-- A replay counts every call of every thread. -/
  replayAbsent : report.replay = none ↔ threads = 0
  replay : ∀ r ∈ report.replay, r.threads = threads ∧
    r.translations = threads * translateSteps s ∧ r.succeeded + r.failed = r.translations
  /-- The totals of the controller are those of the steps and of the replay. -/
  statistics : report.statistics = c'.statistics
  total : report.statistics.counters.translations = (1 + threads) * translateSteps s
  successes : report.statistics.counters.successes =
    report.translations.countP (·.result.isOk) + report.replay.elim 0 (·.succeeded)
  failures : report.statistics.counters.failures =
    report.translations.countP (!·.result.isOk) + report.replay.elim 0 (·.failed)

/-- What the end of a run makes of the gathering: it replays, and then drains the queue. -/
structure Finishes (s : Scenario) (c : Controller) (g : Gathered) (threads : Nat)
    (order : List Transaction) (c' : Controller) (report : Report) : Prop where
  final : c' = (c.run (order.map .translate)).1.processEvents.1
  translations : report.translations = g.translations.reverse
  mismatches : report.failedExpectations = g.failedExpectations
  commandReports : report.commandReports = g.commandReports.reverse
  responses : report.responsesQueued = g.responsesQueued
  events : report.events =
    g.events.reverse ++ (c.run (order.map .translate)).1.processEvents.2
  statistics : report.statistics = c'.statistics
  replayAbsent : report.replay = none ↔ threads = 0
  replay : ∀ r ∈ report.replay, r.threads = threads ∧
    r.translations = threads * translateSteps s ∧
    r.failed = (gather recorded c (order.map .translate)).length ∧
    r.succeeded + r.failed = order.length

/-- The report is put together from what was gathered and from the state at the end. -/
theorem finishes {s : Scenario} {c : Controller} {g : Gathered} {threads : Nat}
    {order : List Transaction} (horder : threads = 0 → order = []) :
    Finishes s c g threads order (finishInOrder s c g threads order).1
      (finishInOrder s c g threads order).2 := by
  have hevents : ∀ es : List Event, (g.addEvents es).events.reverse = g.events.reverse ++ es := by
    intro es
    rw [Gathered.addEvents, List.reverse_append, List.reverse_reverse]
  by_cases hthreads : threads = 0
  · obtain rfl := horder hthreads
    unfold finishInOrder
    rw [if_pos hthreads]
    exact ⟨rfl, rfl, rfl, rfl, rfl, hevents _, rfl, ⟨fun _ => hthreads, fun _ => rfl⟩, nofun⟩
  · obtain ⟨hc, hfailed, htotal⟩ := foldl_replayOne order c 0 0
    unfold finishInOrder replayInOrder
    rw [if_neg hthreads]
    dsimp only
    rw [hc]
    refine ⟨rfl, rfl, rfl, rfl, rfl, hevents _, rfl, ⟨nofun, fun h => absurd h hthreads⟩, ?_⟩
    rintro r ⟨⟩
    refine ⟨rfl, ?_, ?_, ?_⟩
    · rw [List.length_filterMap_eq_countP, translateSteps]
    · rw [hfailed, Nat.zero_add]
    · rw [htotal, Nat.zero_add]

/-- A run that does not fail has set up everything and taken every step. -/
theorem runInOrder_eq_ok {s : Scenario} {c c' : Controller} {threads : Nat}
    {order : List Transaction} {report : Report}
    (h : runInOrder s c threads order = (c', .ok report)) :
    ∃ g, Collects ((prepare s c).run (setUpOps s)).1 0 s.steps .empty g ∧
      finishInOrder s ((prepare s c).run (upTo s s.steps.length)).1 g threads order =
        (c', report) := by
  unfold runInOrder at h
  split at h
  · cases h
  · rename_i c₁ hsetup
    obtain rfl := setUpStreams_eq_ok hsetup
    split at h
    · cases h
    · rename_i c₂ g hsteps
      obtain ⟨rfl, hcollects⟩ := runSteps_eq_ok hsteps
      obtain ⟨rfl, hreport⟩ := Prod.mk.inj h
      refine ⟨g, hcollects, ?_⟩
      rw [upTo, List.take_length, run_append]
      exact Prod.ext rfl (Except.ok.inj hreport)

/-- Every step that processes commands contributes one report. -/
theorem length_gather_reported (c : Controller) (steps : List Step) :
    (gather reported c (steps.map Step.op)).length = steps.count .processCommands := by
  induction steps generalizing c with
  | nil => rfl
  | cons step rest ih =>
    rw [List.map_cons, gather, List.length_append, ih, List.count_cons]
    cases step <;> simp [Step.op, reported, Nat.add_comm]

/-- What is queued in answer to page requests are responses. -/
theorem kind_of_mem_gather_responded {c : Controller} {ops : List Op} {cmd : Command}
    (h : cmd ∈ gather responded c ops) : cmd.kind = .priResp := by
  induction ops generalizing c with
  | nil => cases h
  | cons op ops ih =>
    rw [gather, List.mem_append] at h
    rcases h with h | h
    · by_cases hop : op = .processPageRequests
      · subst hop
        rw [responded_processPageRequests] at h
        obtain ⟨r, -, rfl⟩ := List.mem_map.1 h
        rfl
      · have hnone : c.responded op = [] := by
          cases op <;> first | rfl | exact absurd rfl hop
        rw [hnone] at h
        cases h
    · exact ih h

/-- The operations of a script, part by part. -/
theorem run_script (s : Scenario) (c : Controller) (order : List Transaction) :
    (c.run (script s order)).1 =
      ((c.run (upTo s s.steps.length)).1.run (order.map .translate)).1.processEvents.1 := by
  rw [script, upTo, List.take_length, run_append, run_append, run_append, run_append]
  rfl

/-- What was gathered on the way is what the script contributes. -/
structure Gathers (s : Scenario) (c : Controller) (order : List Transaction) (report : Report) :
    Prop where
  translations : report.translations = outcomes (c.run (setUpOps s)).1 0 s.steps
  commandReports : report.commandReports = gather reported c (script s order)
  responses : report.responsesQueued = (gather responded c (script s order)).length
  events : report.events = gather released c (script s order)

theorem Finishes.gathers {s : Scenario} {c c' : Controller} {g : Gathered} {threads : Nat}
    {order : List Transaction} {report : Report}
    (h : Finishes s (c.run (upTo s s.steps.length)).1 g threads order c' report)
    (hcollects : Collects (c.run (setUpOps s)).1 0 s.steps .empty g) :
    Gathers s c order report where
  translations := h.translations.trans hcollects.translations
  commandReports := by
    rw [gather_script sparse_reported, h.commandReports, hcollects.commandReports]
    exact (List.append_nil _).symm
  responses := by
    rw [gather_script sparse_responded, h.responses, hcollects.responsesQueued]
    exact (Nat.zero_add _).trans (congrArg List.length (List.append_nil _).symm)
  events := by
    rw [gather_script sparse_released, h.events, hcollects.events]
    rfl

/-- The failures that a replay counts are its records. -/
theorem Finishes.replayed {s : Scenario} {c c' : Controller} {g : Gathered} {threads : Nat}
    {order : List Transaction} {report : Report} (h : Finishes s c g threads order c' report)
    (horder : order.length = threads * translateSteps s) :
    report.replay.elim 0 (·.failed) = (gather recorded c (order.map .translate)).length ∧
      report.replay.elim 0 (·.succeeded) + report.replay.elim 0 (·.failed) = order.length := by
  cases hr : report.replay with
  | none =>
    rw [h.replayAbsent.1 hr, Nat.zero_mul] at horder
    obtain rfl := List.eq_nil_of_length_eq_zero horder
    exact ⟨rfl, rfl⟩
  | some r =>
    obtain ⟨-, -, hfailed, htotal⟩ := h.replay r hr
    exact ⟨hfailed, htotal⟩

/-- In whatever order the threads of a replay make their calls, the report of a run is faithful. -/
theorem Finishes.faithful {s : Scenario} {c c' : Controller} {g : Gathered} {threads : Nat}
    {order : List Transaction} {report : Report}
    (h : Finishes s (c.run (upTo s s.steps.length)).1 g threads order c' report)
    (hcollects : Collects (c.run (setUpOps s)).1 0 s.steps .empty g) (hc : c.Pristine)
    (horder : order.length = threads * translateSteps s) :
    Faithful s c threads order c' report := by
  have hperforms : c' = (c.run (script s order)).1 := h.final.trans (run_script ..).symm
  have hgathers := h.gathers hcollects
  -- the books of the controller
  obtain ⟨hconserves, hbooked⟩ := pristine_books hc
  have hreset := not_mem_script (Or.inl rfl) s order
  have hstat := not_mem_script (Or.inr rfl) s order
  have hevents := conserves_run hconserves hstat hreset
  have hcalls := booked_run hbooked hstat hreset
  rw [← hperforms] at hevents hcalls
  have hdrained : c'.events.entries = [] := by
    rw [h.final]
    rfl
  have htaken : report.events = gather taken c (script s order) := by
    have hentries : _ = _ ++ c'.events.entries := hevents.entries
    rw [hdrained, List.append_nil] at hentries
    exact hgathers.events.trans hentries.symm
  -- calls by their results, and calls by their records
  obtain ⟨hfailed, hlength⟩ := countP_outcomes (c.run (setUpOps s)).1 0 s.steps
  rw [← hgathers.translations] at hfailed hlength
  have hresults : report.translations.length =
      report.translations.countP (·.result.isOk) + report.translations.countP (!·.result.isOk) := by
    simpa using List.length_eq_countP_add_countP fun o : TranslationOutcome => o.result.isOk
  obtain ⟨hreplayFailed, hreplayTotal⟩ := h.replayed horder
  have hrecords : c'.counters.failures = _ := hcalls.failures
  rw [List.nil_append, gather_recorded_script, List.length_append, ← hfailed,
    ← hreplayFailed] at hrecords
  have htotal : c'.counters.translations = _ := hcalls.translations
  rw [countP_translates_script, horder, Nat.zero_add] at htotal
  have houtcomes : c'.counters.translations = c'.counters.successes + c'.counters.failures :=
    hcalls.outcomes
  exact {
    performs := hperforms
    translations := by
      rw [hgathers.translations, outcomes_eq]
      simp only [upTo, run_append, Nat.sub_zero]
    mismatches := by
      rw [h.mismatches, hcollects.failedExpectations, hgathers.translations]
      exact Nat.zero_add _
    commandReports := hgathers.commandReports
    commandReportsLength := by
      rw [h.commandReports, hcollects.commandReports]
      exact length_gather_reported ..
    responses := hgathers.responses
    responsesKind := fun _ => kind_of_mem_gather_responded
    events := htaken
    eventsLength := by
      have haccepted : c'.events.accepted = _ := hevents.accepted
      rw [haccepted, htaken, List.nil_append]
    drained := hdrained
    replayAbsent := h.replayAbsent
    replay := fun r hr => by
      obtain ⟨hthreads, htranslations, -, hcount⟩ := h.replay r hr
      exact ⟨hthreads, htranslations, by rw [hcount, horder, htranslations]⟩
    statistics := h.statistics
    total := by
      rw [h.statistics, Nat.add_mul, Nat.one_mul]
      exact htotal
    successes := by
      rw [h.statistics]
      show c'.counters.successes = _
      have hsteps : report.translations.length = translateSteps s := hlength
      omega
    failures := by
      rw [h.statistics]
      exact hrecords }

/-- A run that comes to its end on a fresh controller has a faithful report: one outcome for each translate
    step, one report for each step that processes commands, every event that the queue took, and totals
    that add up.  So it is for any number of threads, and in whatever order they make their calls. -/
theorem run_faithful {c : Controller} (hc : c.Pristine) (s : Scenario) (threads : Nat) :
    (∀ c' report, run s c threads = (c', .ok report) →
      Faithful s (prepare s c) threads (rounds s.steps threads) c' report) ∧
    ∀ order, order.Perm (rounds s.steps threads) → ∀ c' report,
      runInOrder s c threads order = (c', .ok report) →
        Faithful s (prepare s c) threads order c' report := by
  have hinorder : ∀ order, order.Perm (rounds s.steps threads) → ∀ c' report,
      runInOrder s c threads order = (c', .ok report) →
        Faithful s (prepare s c) threads order c' report := by
    intro order hperm c' report h
    have horder : order.length = threads * translateSteps s :=
      hperm.length_eq.trans (length_rounds s threads)
    have hnone : threads = 0 → order = [] := by
      rintro rfl
      exact List.eq_nil_of_length_eq_zero (horder.trans (Nat.zero_mul _))
    obtain ⟨g, hcollects, hfinish⟩ := runInOrder_eq_ok h
    have hfinishes := finishes (s := s) (c := ((prepare s c).run (upTo s s.steps.length)).1)
      (g := g) hnone
    rw [hfinish] at hfinishes
    exact hfinishes.faithful hcollects (pristine_prepare hc s) horder
  exact ⟨fun c' report h => hinorder _ (.refl _) c' report (run_eq_runInOrder s c threads ▸ h),
    hinorder⟩

/-- A transaction stalls, its page request is answered and the page mapped; then it is served, though
    from the tables and not from the cache, and two threads ask again for both pages. -/
theorem run_faithful_stall :
    let config : Configuration := {}
    let c := start config [] [] .empty 0
    let ask (a : UInt64) (expect : Option Expectation) : Step :=
      .translate ⟨1, 0, a, .read, .nonSecure⟩ expect
    let s : Scenario :=
      { name := none
        tables := ∅
        streams := [⟨1, { faultMode := .stall }, none, [⟨0, []⟩]⟩]
        steps := [ask 0x1000 none, .processPageRequests, .processCommands, .drainEvents,
          .map 1 0 ⟨0x1000, 0x8000, .full, .nonSecure⟩, ask 0x1000 (some ⟨none, none, some true⟩),
          ask 0x5000 none] }
    create config = .ok c ∧ ∃ c' report, run s c 2 = (c', .ok report) ∧
      report.translations.map (·.step) = [0, 5, 6] ∧ report.responsesQueued = 1 ∧
      report.events.length = 8 ∧ report.failedExpectations = 1 ∧
      report.statistics.counters.translations = 9 ∧
      Faithful s (prepare s c) 2 (rounds s.steps 2) c' report := by
  intro config c ask s
  have hc : create config = .ok c := rfl
  have hshape : (run s c 2).2.toOption.map (fun r => (r.translations.map (·.step),
      r.responsesQueued, r.events.length, r.failedExpectations,
      r.statistics.counters.translations)) = some ([0, 5, 6], 1, 8, 1, 9) := by
    decide +kernel
  cases hrun : run s c 2 with
  | mk c' result =>
    rw [hrun] at hshape
    cases result with
    | error e => cases hshape
    | ok report =>
      simp only [Except.toOption, Option.map_some, Option.some.injEq, Prod.mk.injEq] at hshape
      obtain ⟨hsteps, hresponses, hevents, hfailed, htotal⟩ := hshape
      exact ⟨hc, c', report, rfl, hsteps, hresponses, hevents, hfailed, htotal,
        (run_faithful (pristine_of_create hc) s 2).1 c' report hrun⟩

end Scenario

end Iommu
