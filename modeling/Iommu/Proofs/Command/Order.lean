/-
  Commands leave in the order in which they came.

  Two operations put commands into the queue, submitting one and answering page requests; three take
  commands out, processing the queue, discarding it and the reset.  `accepted` and `departed` are what
  each operation puts in and takes out, and one equation holds of every step: what was queued and what
  came is what went and what is queued now (`commands_step`).  Over a run the equation adds up
  (`commands_run`), so every accepted command departs once, in the order of acceptance, or still waits.

  How a call departs from the front is said by `ProcessesInOrder`.  The commands run in linked turns,
  each from the state that the one before it left.  A SYNC is therefore a barrier on both sides: its
  turn finds the state in which all commands ahead of it have run and queued their events, appends its
  completion event alone, and is what the commands behind it start from; and where a SYNC has to
  wait, nothing has happened but one more refusal of its event.
-/
import Iommu.Proofs.Command.Turns

namespace Iommu.Controller

/-! ## What comes and what goes -/

/-- The commands that an operation puts into the queue, oldest first. -/
def accepted (c : Controller) : Op → List Command
  | .submitCommand cmd =>
    if (c.submitCommand cmd).2.isOk then [{ cmd with timestamp := c.stamp }] else []
  | .processPageRequests => (c.pageRequests.entries.take c.processPageRequests.2).map c.response
  | _ => []

/-- The commands that an operation runs, in the order in which they run. -/
def consumed (c : Controller) : Op → List Command
  | .processCommands => c.processed.map Turn.command
  | _ => []

/-- The commands that an operation takes out of the queue without running them. -/
def discarded (c : Controller) : Op → List Command
  | .clearCommands => c.commands.entries
  | .reset => c.commands.entries
  | _ => []

/-- The commands that an operation takes out of the queue. -/
def departed (c : Controller) (op : Op) : List Command := c.consumed op ++ c.discarded op

/-- A submission adds the accepted command at the end. -/
theorem entries_submitCommand (c : Controller) (cmd : Command) :
    (c.submitCommand cmd).1.commands.entries =
      c.commands.entries ++ c.accepted (.submitCommand cmd) := by
  have hoffered : (c.submitCommand cmd).1.commands =
      c.commands.push { cmd with timestamp := c.stamp } := rfl
  rw [hoffered, Queue.entries_push, accepted, submitCommand, Queue.submit]
  cases c.commands.isFull <;> rfl

/-- A page request leaves the commands alone, -/
theorem commands_submitPageRequest (c : Controller) (r : PageRequest) :
    (c.submitPageRequest r).1.commands = c.commands := by
  rw [submitPageRequest_eq]

/-- and so does dropping them all. -/
theorem commands_clearPageRequests (c : Controller) :
    c.clearPageRequests.1.commands = c.commands := by
  rw [clearPageRequests_eq]

/-- A new configuration keeps the commands that wait, or is refused. -/
theorem entries_updateConfiguration (c : Controller) (new : Configuration) (found : StreamId) :
    (c.step (.updateConfiguration new found)).1.commands.entries = c.commands.entries := by
  refine settle_preserves (P := fun d => d.commands.entries = c.commands.entries) rfl
    fun c' hc => ?_
  obtain ⟨-, events, commands, pageRequests, -, hcommands, -, rfl⟩ := updateConfiguration_eq_ok hc
  exact Queue.entries_resizeTo hcommands

/-! ## Processing -/

/-- How the command queue is processed. -/
structure ProcessesInOrder (c : Controller) : Prop where
  /-- Each turn runs the command in front, from the state the turn before it left; after the last, a
      SYNC that has to wait costs one more refusal and nothing else. -/
  runs : ∃ d, Linked c c.processed d ∧ Ends d c.processCommands.1 c.processCommands.2.blocked
  stops :
    (c.processCommands.2.blocked = false ∧ c.processCommands.1.commands.entries = []) ∨
    (c.processCommands.2.blocked = true ∧ c.processCommands.1.events.isFull = true ∧
      ∃ sync rest, c.processCommands.1.commands.entries = sync :: rest ∧ sync.isSync = true)
  removes :
    c.commands.entries = c.processed.map Turn.command ++ c.processCommands.1.commands.entries
  counts :
    c.processCommands.2.executed + c.processCommands.2.failed + c.processCommands.2.syncs =
        c.processed.length ∧
      c.processCommands.1.counters.commandsProcessed =
        c.counters.commandsProcessed + c.processed.length
  /-- Events are queued in the order of the turns. -/
  events : c.processCommands.1.events.entries =
    c.events.entries ++ c.processed.flatMap Turn.events
  syncs : ∀ t ∈ c.processed, t.command.isSync = true →
    t.events = [t.before.completion] ∧ t.after = t.before.offerCompletion.countSync.consume
  others : ∀ t ∈ c.processed, t.command.isSync = false →
    ∀ e ∈ t.events, e.kind ≠ .commandSyncCompletion

namespace Ends

variable {d d' : Controller} {blocked : Bool}

/-- A call ends without taking another command. -/
theorem commands (h : Ends d d' blocked) : d'.commands = d.commands := by
  cases h <;> rfl

/-- A refused completion leaves the events as they are. -/
theorem entries_events (h : Ends d d' blocked) : d'.events.entries = d.events.entries := by
  cases h <;> rfl

/-- A refused completion is not counted. -/
theorem counters (h : Ends d d' blocked) : d'.counters = d.counters := by
  cases h <;> rfl

/-- A call ends because nothing is left, or at a barrier whose event finds no room. -/
theorem stops (h : Ends d d' blocked) :
    (blocked = false ∧ d'.commands.entries = []) ∨
    (blocked = true ∧ d'.events.isFull = true ∧
      ∃ sync rest, d'.commands.entries = sync :: rest ∧ sync.isSync = true) := by
  cases h with
  | drained hnil => exact Or.inl ⟨rfl, hnil⟩
  | blocked hfront hsync hfull => exact Or.inr ⟨rfl, hfull, _, _, hfront, hsync⟩

end Ends

/-- A call takes commands from the front, one turn after the other, until none is left or a barrier
    has to wait. -/
theorem processesInOrder (c : Controller) : c.ProcessesInOrder := by
  obtain ⟨d, hlinked, hends⟩ := linked_turns c.commands.entries c .none rfl rfl
  have hreport := report_turns c.commands.entries c .none
  refine ⟨⟨d, hlinked, hends⟩, hends.stops, ?_, ⟨?_, ?_⟩, ?_, ?_, ?_⟩
  · rw [show c.processCommands.1.commands = d.commands from hends.commands]
    exact hlinked.removed
  · exact hreport.trans (Nat.zero_add _)
  · rw [show c.processCommands.1.counters = d.counters from hends.counters]
    exact hlinked.counted
  · rw [show c.processCommands.1.events.entries = d.events.entries from hends.entries_events]
    exact hlinked.events
  · intro t ht hs
    obtain ⟨report, report', hrun⟩ := hlinked.ran t ht
    exact turn_of_sync hrun hs
  · intro t ht hs
    obtain ⟨report, report', hrun⟩ := hlinked.ran t ht
    exact turn_of_other hrun hs

/-! ## Steps and runs -/

/-- What was queued and what comes is what goes and what is queued then. -/
theorem commands_step (c : Controller) (op : Op) :
    c.commands.entries ++ c.accepted op =
      c.departed op ++ (c.step op).1.commands.entries := by
  -- operations that put nothing in and take nothing out
  have hidle : ∀ d : Controller, d.commands.entries = c.commands.entries →
      c.commands.entries ++ [] = [] ++ [] ++ d.commands.entries := by
    intro d hd
    rw [hd, List.append_nil, List.append_nil, List.nil_append]
  cases op with
  | translate t => exact hidle _ (congrArg (fun d => d.commands.entries) (called_translate c t))
  | submitCommand cmd => exact (entries_submitCommand c cmd).symm
  | processCommands =>
    show _ ++ [] = (c.processed.map Turn.command ++ []) ++ _
    rw [List.append_nil, List.append_nil]
    exact c.processesInOrder.removes
  | clearCommands =>
    show _ ++ [] = [] ++ c.commands.entries ++ []
    simp
  | submitPageRequest r => exact hidle _ (congrArg Queue.entries (commands_submitPageRequest c r))
  | processPageRequests =>
    exact (Queue.entries_offer_push c.response c.pageRequests.entries c.commands).symm
  | clearPageRequests => exact hidle _ (congrArg Queue.entries (commands_clearPageRequests c))
  | processEvents => exact hidle _ rfl
  | clearEvents => exact hidle _ rfl
  | addSink s => exact hidle _ rfl
  | enableCaching enabled => cases enabled <;> exact hidle _ rfl
  | updateConfiguration new found => exact hidle _ (entries_updateConfiguration c new found)
  | resetStatistics => exact hidle _ rfl
  | reset =>
    show _ ++ [] = [] ++ c.commands.entries ++ []
    simp
  | elapse ns => exact hidle _ rfl
  | _ => exact hidle _ (congrArg (fun d => d.commands.entries) (confined_step rfl))

/-- The equation of a step adds up over a run. -/
theorem commands_run (c : Controller) (ops : List Op) :
    c.commands.entries ++ gather accepted c ops =
      gather departed c ops ++ (c.run ops).1.commands.entries := by
  induction ops generalizing c with
  | nil => rw [gather, gather, List.append_nil, List.nil_append]; rfl
  | cons op ops ih =>
    calc c.commands.entries ++ gather accepted c (op :: ops)
        = (c.commands.entries ++ c.accepted op) ++ gather accepted (c.step op).1 ops := by
          rw [gather, List.append_assoc]
      _ = c.departed op ++
            ((c.step op).1.commands.entries ++ gather accepted (c.step op).1 ops) := by
          rw [commands_step, List.append_assoc]
      _ = gather departed c (op :: ops) ++ (c.run (op :: ops)).1.commands.entries := by
          rw [ih, gather, List.append_assoc, run_cons]

/-- Over a run the accepted commands depart in the order of acceptance, each once, or still wait; and the
    queue is processed in order wherever the run leads. -/
theorem commands_depart_in_order (c : Controller) (ops : List Op) :
    c.commands.entries ++ gather accepted c ops =
        gather departed c ops ++ (c.run ops).1.commands.entries ∧
      (c.run ops).1.ProcessesInOrder :=
  ⟨commands_run c ops, processesInOrder _⟩

/-- With room for one event the second SYNC has to wait, and so does the command behind it. -/
theorem commands_depart_in_order_blocked :
    let config : Configuration := { queues := { events := 1 } }
    let c := start config [] [] .empty 0
    let ops : List Op := [.submitCommand .sync, .submitCommand .cfgiAll, .submitCommand .sync,
      .submitCommand .tlbiNhAll]
    create config = .ok c ∧
      (c.run ops).1.processed.map (fun t => t.command.kind) = [.sync, .cfgiAll] ∧
      (c.run ops).1.processCommands.2.blocked = true ∧
      c.commands.entries ++ gather accepted c (ops ++ [.processCommands]) =
        gather departed c (ops ++ [.processCommands]) ++
          (c.run (ops ++ [.processCommands])).1.commands.entries ∧
      (c.run ops).1.ProcessesInOrder := by
  intro config c ops
  have hc : create config = .ok c := rfl
  exact ⟨hc, by decide +kernel, by decide +kernel,
    (commands_depart_in_order c (ops ++ [.processCommands])).1, (commands_depart_in_order c ops).2⟩

end Iommu.Controller
