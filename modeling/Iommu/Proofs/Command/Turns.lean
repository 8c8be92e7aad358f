/-
  Processing the command queue, turn by turn.

  A `Turn` is a command that ran, with the state it found and the state it left; `processed` are the
  turns that one call to process the queue takes.  They are `Linked`: each turn runs the command that
  is in front of the queue in the state the turn before it left, and the loop ends where nothing is
  queued or a SYNC is in front that has to wait (`linked_turns`).

  What can be said of a whole call is then said of one turn and carried along the links: the commands
  that ran are those that left the queue, in order (`Linked.removed`); each is counted once
  (`Linked.counted`, `report_turns`); and the event queue grows by what each turn appended, in the order
  of the turns (`Linked.events`).  A SYNC appends its completion event and touches nothing else of
  interest; no other turn appends one (`turn_of_sync`, `turn_of_other`).
-/
import Iommu.Proofs.Controller.Reach
import Iommu.Proofs.Queue.Bounded

namespace Iommu.Controller

/-- A command that ran, with the state it found and the state it left. -/
structure Turn where
  before : Controller
  command : Command
  after : Controller

/-- The events that a turn appended to the event queue. -/
def Turn.events (t : Turn) : List Event :=
  t.after.events.entries.drop t.before.events.entries.length

/-- The commands of a list that run, up to a SYNC that has to wait. -/
def turns (c : Controller) (report : CommandReport) : List Command → List Turn
  | [] => []
  | cmd :: rest =>
    match c.runFront cmd report with
    | some (c', report') => ⟨c, cmd, c'⟩ :: c'.turns report' rest
    | none => []

/-- The turns of processing the command queue. -/
def processed (c : Controller) : List Turn := c.turns .none c.commands.entries

/-- How many commands a report says were consumed. -/
def CommandReport.consumed (r : CommandReport) : Nat := r.executed + r.failed + r.syncs

/-- Turns that lead from one state to another, each running the command in front of the queue. -/
inductive Linked : Controller → List Turn → Controller → Prop
  | stop (c : Controller) : Linked c [] c
  | turn {c c' d : Controller} {cmd : Command} {rest : List Command}
      {report report' : CommandReport} {ts : List Turn} :
      c.commands.entries = cmd :: rest → c.runFront cmd report = some (c', report') →
      Linked c' ts d → Linked c (⟨c, cmd, c'⟩ :: ts) d

/-- The state after the last turn, and what is left to be done there: nothing is queued, or a SYNC is in
    front whose completion event the full queue of events refuses once more. -/
inductive Ends (d : Controller) : Controller → Bool → Prop
  | drained : d.commands.entries = [] → Ends d d false
  | blocked {sync : Command} {rest : List Command} : d.commands.entries = sync :: rest →
      sync.isSync = true → d.events.isFull = true →
      Ends d { d with events := { d.events with rejected := d.events.rejected + 1 } } true

/-! ## The loop -/

/-- Only a barrier waits, and only for a full event queue. -/
theorem runFront_eq_none {c : Controller} {cmd : Command} {report : CommandReport}
    (h : c.runFront cmd report = none) : cmd.isSync = true ∧ c.events.isFull = true := by
  rw [runFront] at h
  split at h
  · rename_i hs
    split at h
    · rename_i hf
      exact ⟨hs, hf⟩
    · cases h
  · split at h <;> cases h

/-- One command in front is one more in the report, and nothing else is reported. -/
theorem report_runFront {c c' : Controller} {cmd : Command} {report report' : CommandReport}
    (h : c.runFront cmd report = some (c', report')) :
    report'.consumed = report.consumed + 1 ∧ report'.blocked = report.blocked := by
  unfold CommandReport.consumed
  rw [runFront] at h
  split at h
  · split at h
    · cases h
    · obtain ⟨-, rfl⟩ := Prod.mk.inj (Option.some.inj h)
      exact ⟨by dsimp only; omega, rfl⟩
  · split at h
    · obtain ⟨-, rfl⟩ := Prod.mk.inj (Option.some.inj h)
      exact ⟨by dsimp only; omega, rfl⟩
    · obtain ⟨-, rfl⟩ := Prod.mk.inj (Option.some.inj h)
      exact ⟨by dsimp only; omega, rfl⟩

/-- A call runs the commands in front one after the other, until none is queued or a SYNC has to
    wait. -/
theorem linked_turns (cmds : List Command) (c : Controller) (report : CommandReport)
    (he : c.commands.entries = cmds) (hb : report.blocked = false) :
    ∃ d, Linked c (c.turns report cmds) d ∧
      Ends d (c.runCommands report cmds).1 (c.runCommands report cmds).2.blocked := by
  induction cmds generalizing c report with
  | nil =>
    refine ⟨c, .stop c, ?_⟩
    rw [runCommands, hb]
    exact .drained he
  | cons cmd rest ih =>
    rw [turns, runCommands]
    cases hf : c.runFront cmd report with
    | none =>
      obtain ⟨hsync, hfull⟩ := runFront_eq_none hf
      refine ⟨c, .stop c, ?_⟩
      dsimp only
      rw [offerCompletion, Queue.push_of_isFull hfull]
      exact .blocked he hsync hfull
    | some x =>
      have he' : x.1.commands.entries = rest := by
        rw [commands_runFront hf, Queue.popFront, he, List.tail_cons]
      obtain ⟨d, hlinked, hends⟩ := ih x.1 x.2 he' ((report_runFront hf).2.trans hb)
      exact ⟨d, .turn he hf hlinked, hends⟩

/-- The report counts the turns. -/
theorem report_turns (cmds : List Command) (c : Controller) (report : CommandReport) :
    (c.runCommands report cmds).2.consumed = report.consumed + (c.turns report cmds).length := by
  induction cmds generalizing c report with
  | nil => rfl
  | cons cmd rest ih =>
    rw [turns, runCommands]
    cases hf : c.runFront cmd report with
    | none => rfl
    | some x =>
      dsimp only
      rw [ih, (report_runFront hf).1, List.length_cons]
      omega

/-! ## One turn -/

/-- The event queue has grown at its end, by no completion event. -/
def GrownQuietly (c c' : Controller) : Prop :=
  ∃ es, c'.events.entries = c.events.entries ++ es ∧ ∀ e ∈ es, e.kind ≠ .commandSyncCompletion

/-- What leaves the events alone is quiet. -/
theorem GrownQuietly.of_events {c c' : Controller} (h : c'.events = c.events) :
    GrownQuietly c c' :=
  ⟨[], by rw [h, List.append_nil], List.forall_mem_nil _⟩

/-- Any other event is quiet. -/
theorem grownQuietly_emit (c : Controller) {e : Event} (h : e.kind ≠ .commandSyncCompletion) :
    GrownQuietly c (c.emit e) := by
  rw [emit_eq]
  refine ⟨_, Queue.entries_push .., fun x hx => ?_⟩
  split at hx
  · cases hx
  · rw [List.mem_singleton.1 hx]
    exact h

/-- No command completes a barrier by what it does to a stream. -/
theorem grownQuietly_executeOn (c : Controller) (s : Stream) (cmd : Command) :
    GrownQuietly c (c.executeOn s cmd) := by
  unfold executeOn
  cases cmd.kind with
  | atcInv =>
    refine grownQuietly_emit _ fun hkind => ?_
    cases hkind
  | prefetchAddr =>
    dsimp only
    rw [prefetch_eq]
    exact .of_events rfl
  | _ => exact .of_events rfl

/-- A failure is reported as an error of configuration. -/
theorem grownQuietly_failCommand (c : Controller) (cmd : Command) :
    GrownQuietly c (c.failCommand cmd) := by
  refine grownQuietly_emit _ fun hkind => ?_
  cases hkind

/-- A command that is no SYNC. -/
theorem grownQuietly_runFront {c c' : Controller} {cmd : Command} {report report' : CommandReport}
    (h : c.runFront cmd report = some (c', report')) (hs : cmd.isSync = false) :
    GrownQuietly c c' := by
  obtain ⟨hsync, -, -⟩ | ⟨-, done, hd, rfl⟩ | ⟨-, e, -, rfl⟩ := runFront_eq_some h
  · rw [hs] at hsync
    cases hsync
  · obtain ⟨s, -, rfl⟩ | ⟨-, -, rfl⟩ | ⟨-, -, rfl⟩ := execute_eq_ok hd
    · exact grownQuietly_executeOn c s cmd
    · exact .of_events rfl
    · exact .of_events rfl
  · exact grownQuietly_failCommand c cmd

/-- A SYNC that runs leaves its completion event, is counted and is gone. -/
theorem runFront_of_sync {c c' : Controller} {cmd : Command} {report report' : CommandReport}
    (h : c.runFront cmd report = some (c', report')) (hs : cmd.isSync = true) :
    c' = c.offerCompletion.countSync.consume ∧
      c'.events.entries = c.events.entries ++ [c.completion] := by
  obtain ⟨-, hfull, rfl⟩ | ⟨hother, -⟩ | ⟨hother, -⟩ := runFront_eq_some h
  · refine ⟨rfl, ?_⟩
    show (c.events.push c.completion).entries = _
    rw [Queue.entries_push, hfull, if_neg Bool.false_ne_true]
  · rw [hs] at hother
    cases hother
  · rw [hs] at hother
    cases hother

/-- The events of a turn are those that stand behind the ones there were. -/
theorem Turn.events_eq {t : Turn} {es : List Event}
    (h : t.after.events.entries = t.before.events.entries ++ es) : t.events = es := by
  rw [events, h, List.drop_left]

/-! ## Along the links -/

namespace Linked

variable {c d : Controller} {ts : List Turn}

/-- The commands that ran are those that left the queue, oldest first. -/
theorem removed (h : Linked c ts d) :
    c.commands.entries = ts.map Turn.command ++ d.commands.entries := by
  induction h with
  | stop => rfl
  | turn he hf _ ih =>
    have hrest := commands_runFront hf
    rw [he, List.map_cons, List.cons_append, ← ih, hrest, Queue.popFront, he, List.tail_cons]

/-- Every turn is counted. -/
theorem counted (h : Linked c ts d) :
    d.counters.commandsProcessed = c.counters.commandsProcessed + ts.length := by
  induction h with
  | stop => rfl
  | turn _ hf _ ih =>
    have hone := congrArg (fun x => x.counters.commandsProcessed) (ran_runFront hf)
    dsimp only at hone
    rw [ih, hone, List.length_cons]
    omega

/-- Every turn ran its command. -/
theorem ran (h : Linked c ts d) : ∀ t ∈ ts, ∃ report report',
    t.before.runFront t.command report = some (t.after, report') := by
  induction h with
  | stop =>
    intro t ht
    cases ht
  | turn _ hf _ ih =>
    intro t ht
    rcases List.mem_cons.1 ht with rfl | ht
    · exact ⟨_, _, hf⟩
    · exact ih t ht

/-- What every command in front keeps holds of the state that each turn finds. -/
theorem keeps {P : Controller → Prop} (h : Linked c ts d)
    (hfront : ∀ c c' cmd report report', c.runFront cmd report = some (c', report') → P c → P c')
    (hc : P c) : ∀ t ∈ ts, P t.before := by
  induction h with
  | stop =>
    intro t ht
    cases ht
  | turn _ hf _ ih =>
    intro t ht
    rcases List.mem_cons.1 ht with rfl | ht
    · exact hc
    · exact ih (hfront _ _ _ _ _ hf hc) t ht

/-- The event queue grows by what each turn appended, in the order of the turns. -/
theorem events (h : Linked c ts d) :
    d.events.entries = c.events.entries ++ ts.flatMap Turn.events := by
  induction h with
  | stop => simp
  | @turn c c' d cmd rest report report' ts _ hf _ ih =>
    have happended : ∃ es, c'.events.entries = c.events.entries ++ es := by
      cases hs : cmd.isSync with
      | true => exact ⟨_, (runFront_of_sync hf hs).2⟩
      | false => exact (grownQuietly_runFront hf hs).imp fun _ hes => hes.1
    obtain ⟨es, hes⟩ := happended
    have hturn : (Turn.mk c cmd c').events = es := Turn.events_eq hes
    rw [ih, List.flatMap_cons, hturn, hes, List.append_assoc]

end Linked

/-- The turn of a barrier adds its completion, and no other event. -/
theorem turn_of_sync {t : Turn} {report report' : CommandReport}
    (h : t.before.runFront t.command report = some (t.after, report'))
    (hs : t.command.isSync = true) :
    t.events = [t.before.completion] ∧ t.after = t.before.offerCompletion.countSync.consume := by
  obtain ⟨hafter, hevents⟩ := runFront_of_sync h hs
  exact ⟨Turn.events_eq hevents, hafter⟩

/-- The turn of any other command completes no barrier. -/
theorem turn_of_other {t : Turn} {report report' : CommandReport}
    (h : t.before.runFront t.command report = some (t.after, report'))
    (hs : t.command.isSync = false) : ∀ e ∈ t.events, e.kind ≠ .commandSyncCompletion := by
  obtain ⟨es, hes, hkind⟩ := grownQuietly_runFront h hs
  rw [Turn.events_eq hes]
  exact hkind

end Iommu.Controller
