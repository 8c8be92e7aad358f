/-
  How commands are spread over calls makes no difference.

  A schedule submits commands, lets time pass and processes the queue wherever it likes.  Whatever the
  schedule, it comes to one run of all the commands, those queued before and those submitted, from the
  state in which it starts (`CarriesOut`, `carriesOut_schedule`).

  The loop can be cut anywhere: running two lists is running the first and, unless a SYNC has to wait
  there, the second after it (`runCommands_append`); and a SYNC that has to wait, has to wait again when
  the queue is next processed, at the cost of one more refusal of its event.  So what a call leaves can
  be done by a later one, together with what was queued since (`processCommands_resumes`); that is the
  step of the induction along a schedule.
-/
import Iommu.Proofs.Command.Effect
import Iommu.Proofs.Command.Order

namespace Iommu.Controller

/-! ## Cutting the loop -/

/-- Two calls reported as one. -/
def CommandReport.plus (r s : CommandReport) : CommandReport :=
  { executed := r.executed + s.executed
    failed := r.failed + s.failed
    syncs := r.syncs + s.syncs
    blocked := r.blocked || s.blocked }

namespace CommandReport

/-- A call that reached nothing adds nothing to a report. -/
theorem plus_none (r : CommandReport) : r.plus none = r := by
  simp [plus, none]

/-- That a SYNC still waits is nothing new. -/
theorem plus_blocked {r : CommandReport} (h : r.blocked = true) :
    r.plus { none with blocked := true } = r := by
  simp [plus, none, ← h]

/-- Reports add up in what was consumed. -/
theorem consumed_plus (r s : CommandReport) :
    (r.plus s).consumed = r.consumed + s.consumed := by
  simp only [consumed, plus]
  omega

end CommandReport

/-- What was reported before has no part in the turn of a command. -/
theorem runFront_plus (c : Controller) (cmd : Command) (r s : CommandReport) :
    c.runFront cmd (r.plus s) = (c.runFront cmd s).map fun x => (x.1, r.plus x.2) := by
  rw [runFront, runFront]
  split
  · split <;> rfl
  · cases c.execute cmd <;> rfl

/-- What is reported already changes nothing but the report. -/
theorem runCommands_plus (c : Controller) (r s : CommandReport) (cmds : List Command) :
    c.runCommands (r.plus s) cmds =
      ((c.runCommands s cmds).1, r.plus (c.runCommands s cmds).2) := by
  induction cmds generalizing c s with
  | nil => rfl
  | cons cmd rest ih =>
    rw [runCommands, runCommands, runFront_plus]
    cases c.runFront cmd s with
    | none => simp [CommandReport.plus]
    | some x => exact ih x.1 x.2

/-- A list of commands in two parts: the second runs after the first, unless a SYNC has to wait there. -/
theorem runCommands_append (c : Controller) (report : CommandReport) (xs ys : List Command)
    (hreport : report.blocked = false) : c.runCommands report (xs ++ ys) =
      if (c.runCommands report xs).2.blocked then c.runCommands report xs
      else (c.runCommands report xs).1.runCommands (c.runCommands report xs).2 ys := by
  induction xs generalizing c report with
  | nil => rw [runCommands, hreport, if_neg Bool.false_ne_true, List.nil_append]
  | cons cmd rest ih =>
    rw [List.cons_append, runCommands, runCommands]
    cases hf : c.runFront cmd report with
    | none => rfl
    | some x => exact ih x.1 x.2 ((report_runFront hf).2.trans hreport)

/-- The commands that ran have left the queue, and nothing else has happened to it. -/
theorem commands_runCommands (c : Controller) (report : CommandReport) (cmds : List Command) :
    (c.runCommands report cmds).1.commands =
      { c.commands with entries := c.commands.entries.drop (c.turns report cmds).length } := by
  induction cmds generalizing c report with
  | nil => rfl
  | cons cmd rest ih =>
    rw [runCommands, turns]
    cases hf : c.runFront cmd report with
    | none => rfl
    | some x =>
      refine (ih x.1 x.2).trans ?_
      rw [commands_runFront hf, Queue.popFront, List.drop_tail]
      rfl

/-- A call leaves what it did not consume. -/
theorem commands_processCommands (c : Controller) : c.processCommands.1.commands =
    { c.commands with
      entries := c.commands.entries.drop c.processCommands.2.consumed } := by
  have hreport : c.processCommands.2.consumed = c.processed.length :=
    (report_turns c.commands.entries c .none).trans (Nat.zero_add _)
  rw [hreport]
  exact commands_runCommands c .none c.commands.entries

/-- With a SYNC in front that has to wait, a call refuses its event and does nothing else, whatever is
    queued behind it. -/
theorem runCommands_blocked {c : Controller} {sync : Command} (hsync : sync.isSync = true)
    (hfull : c.events.isFull = true) (rest : List Command) :
    (c.runCommands .none (sync :: rest)).1.effect = c.effect ∧
      (c.runCommands .none (sync :: rest)).2 = { CommandReport.none with blocked := true } := by
  have hfront : c.runFront sync .none = none := by rw [runFront, if_pos hsync, if_pos hfull]
  rw [runCommands, hfront]
  refine ⟨?_, rfl⟩
  show ({ c with events := c.events.push c.completion } : Controller).effect = c.effect
  rw [Queue.push_of_isFull hfull]
  rfl

/-- What a call leaves to be done can be done by a later one, together with commands queued since: the
    two come to one call for all of them. -/
theorem processCommands_resumes (c : Controller) (cmds : List Command) :
    let d := c.processCommands.1
    let later := d.runCommands .none (d.commands.entries ++ cmds)
    let once := c.runCommands .none (c.commands.entries ++ cmds)
    later.1.effect = once.1.effect ∧ c.processCommands.2.plus later.2 = once.2 := by
  intro d later once
  have honce : once = if c.processCommands.2.blocked then c.processCommands
      else d.runCommands c.processCommands.2 cmds :=
    runCommands_append c .none c.commands.entries cmds rfl
  obtain ⟨hblocked, hnil⟩ | ⟨hblocked, hfull, sync, rest, hentries, hsync⟩ :=
    c.processesInOrder.stops
  · -- nothing is left, and the report goes on where the first call ended
    rw [honce, hblocked, if_neg Bool.false_ne_true]
    have hplus := runCommands_plus d c.processCommands.2 .none cmds
    rw [CommandReport.plus_none] at hplus
    have hlater : later = d.runCommands .none cmds :=
      congrArg (fun es => d.runCommands .none (es ++ cmds)) hnil
    rw [hplus, hlater]
    exact ⟨rfl, rfl⟩
  · -- the SYNC in front has to wait again
    have hlater : later = d.runCommands .none (sync :: (rest ++ cmds)) :=
      congrArg (fun es => d.runCommands .none (es ++ cmds)) hentries
    obtain ⟨heffect, hreport⟩ := runCommands_blocked hsync hfull (rest ++ cmds)
    rw [honce, hblocked, if_pos rfl, hlater, hreport]
    exact ⟨heffect, CommandReport.plus_blocked hblocked⟩

/-! ## Schedules -/

/-- The operations that a schedule of commands is made of: submitting a command, processing the queue,
    and the passing of time. -/
def Op.schedules : Op → Bool
  | .submitCommand _ => true
  | .processCommands => true
  | .elapse _ => true
  | _ => false

/-- The commands that are submitted, in order. -/
def submitted : List Op → List Command
  | [] => []
  | .submitCommand cmd :: ops => cmd :: submitted ops
  | _ :: ops => submitted ops

/-- What all calls that process the queue report together. -/
def totalReport : List Outcome → CommandReport
  | [] => .none
  | .ok (.report r) :: outcomes => r.plus (totalReport outcomes)
  | _ :: outcomes => totalReport outcomes

/-- A run has carried out the commands that were queued, and others after them, as if they had run
    one after the other from its start. -/
structure CarriesOut (c : Controller) (cmds : List Command) (x : Controller × List Outcome) :
    Prop where
  answers : ∀ o ∈ x.2, o.isOk = true
  effect : x.1.effect = (c.runCommands .none (c.commands.entries ++ cmds)).1.effect
  report : totalReport x.2 = (c.runCommands .none (c.commands.entries ++ cmds)).2
  /-- The commands that have run have left the queue. -/
  commands : x.1.commands.map Command.untimed =
    { c.commands with
      entries := (c.commands.entries ++ cmds).drop (totalReport x.2).consumed
      accepted := c.commands.accepted + cmds.length }.map Command.untimed

namespace CarriesOut

variable {c : Controller} {cmds : List Command} {x : Controller × List Outcome}

/-- One call for what is queued. -/
theorem processCommands (c : Controller) :
    CarriesOut c [] (c.step .processCommands |>.1, [(c.step .processCommands).2]) where
  answers o ho := by
    rw [List.mem_singleton.1 ho]
    rfl
  effect := by
    rw [List.append_nil]
    rfl
  report := by
    rw [List.append_nil]
    exact CommandReport.plus_none _
  commands := by
    have htotal : totalReport [(c.step .processCommands).2] = c.processCommands.2 :=
      CommandReport.plus_none _
    rw [htotal, List.append_nil]
    exact congrArg (Queue.map Command.untimed) (commands_processCommands c)

/-- One call first, which leaves what it cannot do to the others. -/
theorem after_processCommands (h : CarriesOut c.processCommands.1 cmds x) :
    CarriesOut c cmds (x.1, (c.step .processCommands).2 :: x.2) := by
  obtain ⟨heffect, hreport⟩ := processCommands_resumes c cmds
  have htotal : totalReport ((c.step .processCommands).2 :: x.2) =
      c.processCommands.2.plus (totalReport x.2) := rfl
  refine ⟨List.forall_mem_cons.2 ⟨rfl, h.answers⟩, h.effect.trans heffect, ?_, ?_⟩
  · rw [htotal, h.report]
    exact hreport
  · have hleft := congrArg List.length c.processesInOrder.removes
    rw [List.length_append, List.length_map, ← c.processesInOrder.counts.1] at hleft
    have hle : c.processCommands.2.consumed ≤ c.commands.entries.length :=
      hleft ▸ Nat.le_add_right ..
    rw [htotal, h.commands, commands_processCommands, CommandReport.consumed_plus, ← List.drop_drop,
      List.drop_append_of_le_length hle]

/-- A state with the same effect and with the commands queued that are to come. -/
theorem of_queued {c' : Controller} {cmds' : List Command} {o : Outcome}
    (h : CarriesOut c' cmds x) (ho : o.isOk = true)
    (hreport : totalReport (o :: x.2) = totalReport x.2) (heffect : c'.effect = c.effect)
    (hcommands : (c'.commands.entries ++ cmds).map Command.untimed =
      (c.commands.entries ++ cmds').map Command.untimed)
    (hcapacity : c'.commands.capacity = c.commands.capacity)
    (haccepted : c'.commands.accepted + cmds.length = c.commands.accepted + cmds'.length)
    (hrejected : c'.commands.rejected = c.commands.rejected) :
    CarriesOut c cmds' (x.1, o :: x.2) := by
  obtain ⟨hsame, hreported⟩ := effect_runCommands heffect .none (c'.commands.entries ++ cmds)
  have huntimed : c.runCommands .none (c'.commands.entries ++ cmds) =
      c.runCommands .none (c.commands.entries ++ cmds') := by
    rw [← Delayed.runCommands_untimed, hcommands, Delayed.runCommands_untimed]
  rw [huntimed] at hsame hreported
  refine ⟨List.forall_mem_cons.2 ⟨ho, h.answers⟩, h.effect.trans hsame, ?_, ?_⟩
  · exact hreport.trans (h.report.trans hreported)
  · rw [hreport, h.commands]
    simp only [Queue.map, List.map_drop, hcommands, hcapacity, haccepted, hrejected]

/-- Time passes before the rest is carried out. -/
theorem after_elapse (ns : Nat) (h : CarriesOut (c.elapse ns) cmds x) :
    CarriesOut c cmds (x.1, (c.step (.elapse ns)).2 :: x.2) :=
  h.of_queued rfl rfl rfl rfl rfl rfl rfl

/-- A command is queued before the rest is carried out; it waits its turn. -/
theorem after_submitCommand {cmd : Command} (hroom : c.commands.isFull = false)
    (h : CarriesOut (c.submitCommand cmd).1 cmds x) :
    CarriesOut c (cmd :: cmds) (x.1, (c.step (.submitCommand cmd)).2 :: x.2) := by
  have hanswer : (c.step (.submitCommand cmd)).2 = .ok .done := by
    have hok : (c.submitCommand cmd).2 = .ok () :=
      (Queue.submit_eq_ok_iff .command c.commands { cmd with timestamp := c.stamp }).2 hroom
    show (c.submitCommand cmd).2.map _ = _
    rw [hok]
    rfl
  have hpush : (c.submitCommand cmd).1.commands =
      { c.commands with
        entries := c.commands.entries ++ [{ cmd with timestamp := c.stamp }]
        accepted := c.commands.accepted + 1 } := Queue.push_of_not_isFull hroom _
  rw [hanswer]
  refine h.of_queued rfl rfl rfl ?_ (by rw [hpush]) ?_ (by rw [hpush])
  · rw [hpush, List.append_assoc]
    simp only [List.map_append]
    rfl
  · rw [hpush, List.length_cons]
    exact Nat.add_right_comm ..

end CarriesOut

/-- Whatever the schedule, its commands are carried out after those that were queued, once the queue is
    processed in the end. -/
theorem carriesOut_schedule {c : Controller} {ops : List Op}
    (hops : ∀ op ∈ ops, op.schedules = true)
    (hroom : c.commands.size + (submitted ops).length ≤ c.commands.capacity) :
    CarriesOut c (submitted ops) (c.run (ops ++ [.processCommands])) := by
  induction ops generalizing c with
  | nil => exact .processCommands c
  | cons op ops ih =>
    obtain ⟨hop, hrest⟩ := List.forall_mem_cons.1 hops
    cases op with
    | submitCommand cmd =>
      rw [submitted, List.length_cons] at hroom
      have hfull : c.commands.isFull = false := Queue.isFull_eq_false.2 (by omega)
      refine .after_submitCommand hfull (ih hrest ?_)
      show (c.commands.push { cmd with timestamp := c.stamp }).size + _ ≤
        (c.commands.push { cmd with timestamp := c.stamp }).capacity
      rw [Queue.push_of_not_isFull hfull, Queue.size, List.length_append, List.length_singleton]
      unfold Queue.size at hroom
      dsimp only
      omega
    | processCommands =>
      refine .after_processCommands (ih hrest ?_)
      show c.processCommands.1.commands.size + (submitted ops).length ≤ _
      rw [commands_processCommands, Queue.size, List.length_drop]
      exact Nat.le_trans (Nat.add_le_add_right (Nat.sub_le ..) _) hroom
    | elapse ns => exact .after_elapse ns (ih hrest hroom)
    | _ => cases hop

/-! ## Batches -/

/-- The state without the clock, the stamps of commands, events and cached translations, and the count of
    events refused. -/
def unstamped (c : Controller) : Controller :=
  { c.effect with commands := c.commands.map Command.untimed }

/-- Two runs leave the same and report the same in sum, but for stamps and refused events. -/
structure SameUnstamped (x y : Controller × List Outcome) : Prop where
  answers : (∀ o ∈ x.2, o.isOk = true) ∧ ∀ o ∈ y.2, o.isOk = true
  state : x.1.unstamped = y.1.unstamped
  statistics : x.1.statistics = y.1.statistics
  report : totalReport x.2 = totalReport y.2

/-- States with the same effect have the same statistics. -/
theorem statistics_eq_of_effect {c d : Controller} (h : c.effect = d.effect) :
    c.statistics = d.statistics := by
  have hunstamped : ∀ t : Tlb, t.unstamped.statistics = t.statistics := by
    intro t
    rw [Tlb.statistics, Tlb.size_unstamped, Tlb.statistics]
    rfl
  have htlb : c.tlb.unstamped = d.tlb.unstamped := congrArg Controller.tlb h
  have hcache : c.tlb.statistics = d.tlb.statistics := by
    rw [← hunstamped, htlb, hunstamped]
  rw [statistics, statistics, counters_eq_of_effect h, hcache, streamCount, streamCount,
    streams_eq_of_effect h]

/-- Two schedules that carry out the same commands cannot be told apart. -/
theorem CarriesOut.sameUnstamped {c : Controller} {cmds : List Command}
    {x y : Controller × List Outcome} (hx : CarriesOut c cmds x) (hy : CarriesOut c cmds y) :
    SameUnstamped x y := by
  have heffect := hx.effect.trans hy.effect.symm
  have hreport := hx.report.trans hy.report.symm
  have hcommands := hx.commands.trans ((congrArg (fun r : CommandReport => Queue.map Command.untimed
    { c.commands with
      entries := (c.commands.entries ++ cmds).drop r.consumed
      accepted := c.commands.accepted + cmds.length }) hreport).trans hy.commands.symm)
  refine ⟨⟨hx.answers, hy.answers⟩, ?_, statistics_eq_of_effect heffect, hreport⟩
  rw [unstamped, unstamped, heffect, hcommands]

/-- A batch submits its commands in their order. -/
theorem submitted_batch (cmds : List Command) : submitted (cmds.map .submitCommand) = cmds := by
  induction cmds with
  | nil => rfl
  | cons cmd cmds ih => rw [List.map_cons, submitted, ih]

/-- Commands that fit in the queue are accepted and carried out to the same effect, whether they are
    submitted at once and processed by one call, or submitted over time with calls in between and one in
    the end. -/
theorem batching_unobservable (c : Controller) (ops : List Op)
    (hops : ∀ op ∈ ops, op.schedules = true)
    (hroom : c.commands.size + (submitted ops).length ≤ c.commands.capacity) :
    SameUnstamped (c.run ((submitted ops).map .submitCommand ++ [.processCommands]))
      (c.run (ops ++ [.processCommands])) := by
  have hbatch : ∀ op ∈ (submitted ops).map Op.submitCommand, op.schedules = true := by
    intro op hop
    obtain ⟨cmd, -, rfl⟩ := List.mem_map.1 hop
    rfl
  have honce := carriesOut_schedule (c := c) hbatch ((submitted_batch (submitted ops)).symm ▸ hroom)
  rw [submitted_batch] at honce
  exact honce.sameUnstamped (carriesOut_schedule hops hroom)

/-- The only place for an event is taken, so the SYNC waits in every call; what follows it stays queued,
    and the prefetch before it is cached at another time. -/
theorem batching_unobservable_blocked :
    let config : Configuration := { queues := { events := 1 } }
    let c := ((start config [] [] .empty 0).run [.configure 1 {}, .createPasid 1 0,
      .map 1 0 ⟨0x1000, 0x8000, .full, .nonSecure⟩]).1
    let ops : List Op := [.submitCommand (.atcInv 1 0 0x1000 0x2000), .processCommands, .elapse 5,
      .submitCommand (.prefetchAddr 1 0 0x1000), .submitCommand .sync, .processCommands,
      .submitCommand (.cfgiSte 9), .submitCommand .tlbiNhAll, .processCommands]
    let once := c.run ((submitted ops).map .submitCommand ++ [.processCommands])
    let spread := c.run (ops ++ [.processCommands])
    (∀ op ∈ ops, op.schedules = true) ∧
      c.commands.size + (submitted ops).length ≤ c.commands.capacity ∧
      totalReport spread.2 = ⟨2, 0, 0, true⟩ ∧ spread.1.commands.size = 3 ∧
      once.1.events.rejected = 1 ∧ spread.1.events.rejected = 3 ∧
      SameUnstamped once spread := by
  intro config c ops once spread
  have hops : ∀ op ∈ ops, op.schedules = true := by decide +kernel
  have hroom : c.commands.size + (submitted ops).length ≤ c.commands.capacity := by decide +kernel
  exact ⟨hops, hroom, by decide +kernel, by decide +kernel, by decide +kernel, by decide +kernel,
    batching_unobservable c ops hops hroom⟩

end Iommu.Controller
