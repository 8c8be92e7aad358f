/-
  Every call to translate is counted once, and every failing one is recorded once.

  The `ledger` is what the controller counts of translations and faults, with its own fault log.  One
  equation says what a call adds to it (`ledger_translate`): a success adds one success and leaves the
  log alone, whichever way the answer was found; a failure adds one failure, one fault and one record,
  and what the log lost to make room is counted as discarded.  The record is that of the call
  (`faultRecord`), with the class of the error answered and the stage that the walk attributes it to;
  the same record goes to the log attached to the stream (`resources_translate`).

  No other operation touches the ledger, except that a smaller fault log discards records, which are
  counted, and the two operations that reset.  So over a run that resets nothing the counts are those of
  the calls, and the log is the history of the records without its oldest (`booked_run`).
-/
import Iommu.Proofs.Controller.Kept
import Iommu.Proofs.Controller.Reach
import Iommu.Proofs.Fault.Log

namespace Iommu

/-! ## The ledger -/

/-- What is counted of translations and faults, and the log of the faults. -/
structure Ledger where
  translations : Nat
  successes : Nat
  failures : Nat
  faults : Nat
  discarded : Nat
  log : FaultLog

namespace Ledger

/-- One more call that succeeded. -/
def succeed (l : Ledger) : Ledger :=
  { l with translations := l.translations + 1, successes := l.successes + 1 }

/-- One more fault recorded. -/
def record (l : Ledger) (r : FaultRecord) : Ledger :=
  { l with
    faults := l.faults + 1
    discarded := l.discarded + (l.log.record r).2.toNat
    log := (l.log.record r).1 }

/-- One more call that failed, with its record. -/
def fail (l : Ledger) (r : FaultRecord) : Ledger :=
  { l.record r with translations := l.translations + 1, failures := l.failures + 1 }

/-- Another capacity for the log. -/
def resize (l : Ledger) (n : Nat) : Ledger :=
  { l with discarded := l.discarded + (l.log.setCapacity n).2, log := (l.log.setCapacity n).1 }

/-- The ledger after a number of calls whose failures left a history of records. -/
structure Booked (l : Ledger) (calls : Nat) (history : List FaultRecord) : Prop where
  translations : l.translations = calls
  outcomes : l.translations = l.successes + l.failures
  failures : l.failures = history.length
  faults : l.faults = l.failures
  log : l.log.Keeps history l.discarded
  bounded : l.log.size ≤ l.log.capacity

namespace Booked

variable {l : Ledger} {calls : Nat} {history : List FaultRecord}

/-- A success is one more call. -/
theorem succeed (h : l.Booked calls history) : l.succeed.Booked (calls + 1) history := by
  refine ⟨congrArg (· + 1) h.translations, ?_, h.failures, h.faults, h.log, h.bounded⟩
  have houtcomes := h.outcomes
  show l.translations + 1 = l.successes + 1 + l.failures
  omega

/-- A failure is one more call and one more record. -/
theorem fail (h : l.Booked calls history) (r : FaultRecord) :
    (l.fail r).Booked (calls + 1) (history ++ [r]) := by
  refine ⟨congrArg (· + 1) h.translations, ?_, ?_, congrArg (· + 1) h.faults,
    h.log.record h.bounded r, FaultLog.size_record_le ..⟩
  · have houtcomes := h.outcomes
    show l.translations + 1 = l.successes + (l.failures + 1)
    omega
  · rw [List.length_append, ← h.failures]
    rfl

/-- A log that shrinks counts what it discards. -/
theorem resize (h : l.Booked calls history) (n : Nat) : (l.resize n).Booked calls history :=
  ⟨h.translations, h.outcomes, h.failures, h.faults, h.log.setCapacity n, FaultLog.size_trim_le _⟩

end Booked

end Ledger

namespace Controller

/-- The ledger of a controller. -/
def ledger (c : Controller) : Ledger :=
  { translations := c.counters.translations
    successes := c.counters.successes
    failures := c.counters.failures
    faults := c.counters.faults
    discarded := c.counters.faultsDiscarded
    log := c.faultLog }

/-! ## Records -/

/-- The stage to which a failing call is attributed: that of the walk, or none if there is no stream to
    walk. -/
def faultStage (c : Controller) (t : Transaction) : Stage :=
  match c.streams[t.stream]? with
  | none => .unstaged
  | some s =>
    match s.walk c.resources t with
    | .ok _ => .unstaged
    | .error f => f.stage

/-- The record of a call that fails with an error. -/
def faultRecord (c : Controller) (t : Transaction) (e : Error) : FaultRecord :=
  .ofTransaction t e.faultKind (c.faultStage t) c.stamp

/-- The log attached to a stream, if the stream is configured and has one. -/
def attachedLog (c : Controller) (id : StreamId) : Option LogId := c.streams[id]?.bind Stream.log

/-- Whether an operation is a call to translate. -/
def Op.translates : Op → Bool
  | .translate _ => true
  | _ => false

/-- The records that an operation leaves: one for a call to translate that fails. -/
def recorded (c : Controller) : Op → List FaultRecord
  | .translate t =>
    match (c.translate t).2 with
    | .ok _ => []
    | .error e => [c.faultRecord t e]
  | _ => []

/-- Without a stream the record blames no stage. -/
theorem faultRecord_of_none {c : Controller} {t : Transaction} (h : c.streams[t.stream]? = none)
    (e : Error) : c.faultRecord t e = .ofTransaction t e.faultKind .unstaged c.stamp := by
  rw [faultRecord, faultStage, h]

/-- The record blames the stage at which the walk failed. -/
theorem faultRecord_of_walk {c : Controller} {t : Transaction} {s : Stream} {f : StageFault}
    (hs : c.streams[t.stream]? = some s) (hf : s.walk c.resources t = .error f) :
    c.faultRecord t f.error = .ofTransaction t f.error.faultKind f.stage c.stamp := by
  simp only [faultRecord, faultStage, hs, hf]

/-! ## Calls to translate -/

/-- Events are in no book. -/
theorem ledger_emit (c : Controller) (e : Event) : (c.emit e).ledger = c.ledger := by
  rw [emit_eq]
  rfl

/-- Stalls are in no book. -/
theorem ledger_stall (c : Controller) (t : Transaction) : (c.stall t).ledger = c.ledger := by
  unfold stall
  dsimp only
  split
  · rfl
  · rw [ledger_emit]
    rfl

/-- A fault is entered once. -/
theorem ledger_reportFault (c : Controller) (t : Transaction) (f : StageFault) :
    (c.reportFault t f).ledger =
      c.ledger.record (.ofTransaction t f.error.faultKind f.stage c.stamp) := by
  unfold reportFault
  dsimp only
  rw [ledger_emit]
  rfl

theorem ledger_lookupCache (c : Controller) (t : Transaction) :
    (c.lookupCache t).1.ledger = c.ledger := by
  rw [lookupCache_eq]
  rfl

/-- A lookup takes no time. -/
theorem stamp_lookupCache (c : Controller) (t : Transaction) :
    (c.lookupCache t).1.stamp = c.stamp := by
  rw [lookupCache_eq]
  rfl

/-- A fault met in the tables, after a lookup that did not answer. -/
theorem ledger_missed {c : Controller} {s : Stream} {t : Transaction} {f : StageFault}
    (hs : c.streams[t.stream]? = some s) (hf : s.walk c.resources t = .error f) :
    (((c.lookupCache t).1.missed s t f).reportFault t f).ledger =
      c.ledger.record (c.faultRecord t f.error) := by
  have hledger : ((c.lookupCache t).1.missed s t f).ledger = c.ledger := ledger_lookupCache c t
  have hstamp : ((c.lookupCache t).1.missed s t f).stamp = c.stamp := stamp_lookupCache c t
  rw [ledger_reportFault, hledger, hstamp, faultRecord_of_walk hs hf]

/-- What a call to translate adds to the ledger. -/
theorem ledger_translate (c : Controller) (t : Transaction) :
    (c.translate t).1.ledger =
      match (c.translate t).2 with
      | .ok _ => c.ledger.succeed
      | .error e => c.ledger.fail (c.faultRecord t e) := by
  have hsucceed : ∀ d : Controller, d.ledger = c.ledger →
      (d.countTranslation true).ledger = c.ledger.succeed := by
    intro d hd
    rw [← hd]
    rfl
  have hfail : ∀ (d : Controller) (e : Error), d.ledger = c.ledger.record (c.faultRecord t e) →
      (d.countTranslation false).ledger = c.ledger.fail (c.faultRecord t e) := by
    intro d e hd
    show ({ d.ledger with
      translations := d.ledger.translations + 1, failures := d.ledger.failures + 1 } : Ledger) = _
    rw [hd]
    rfl
  refine translate_cases (P := fun x => x.1.ledger =
    match x.2 with
    | .ok _ => c.ledger.succeed
    | .error e => c.ledger.fail (c.faultRecord t e)) ?_ ?_ ?_ ?_ ?_
  · intro hn
    refine hfail _ _ ?_
    rw [ledger_reportFault, faultRecord_of_none hn]
    rfl
  · exact fun s e _ _ => hsucceed _ (ledger_lookupCache c t)
  · intro s r epoch _ _
    refine hsucceed _ ?_
    rw [remember_eq]
    exact ledger_lookupCache c t
  · exact fun s f hs hf _ => hfail _ f.error (ledger_missed hs hf)
  · intro s f hs hf _ _
    refine hfail _ f.error ?_
    rw [ledger_stall]
    exact ledger_missed hs hf

/-- The log of a stream is asked for at the time of the call. -/
theorem attachedLog_of_some {c : Controller} {id : StreamId} {s : Stream}
    (h : c.streams[id]? = some s) : c.attachedLog id = s.log := by
  rw [attachedLog, h]
  rfl

/-- What is recorded with the stream is the record of the call. -/
theorem resources_missed {c : Controller} (hw : c.WellFormed) {s : Stream} {t : Transaction}
    {f : StageFault} (hs : c.streams[t.stream]? = some s) (hf : s.walk c.resources t = .error f) :
    ((c.lookupCache t).1.missed s t f).resources =
      c.resources.record (c.attachedLog t.stream) (c.faultRecord t f.error) := by
  have hid : ({ t with stream := s.id } : Transaction) = t := by
    rw [hw.keyed t.stream s hs]
  rw [attachedLog_of_some hs, faultRecord_of_walk hs hf, missed, lookupCache_eq]
  show c.resources.record s.log (.ofTransaction { t with stream := s.id } _ _ _) = _
  rw [hid]
  rfl

/-- A call that fails hands its record to the log attached to the stream, and one that succeeds hands
    nothing to any log. -/
theorem resources_translate {c : Controller} (hw : c.WellFormed) (t : Transaction) :
    (c.translate t).1.resources =
      match (c.translate t).2 with
      | .ok _ => c.resources
      | .error e => c.resources.record (c.attachedLog t.stream) (c.faultRecord t e) := by
  refine translate_cases (P := fun x => x.1.resources =
    match x.2 with
    | .ok _ => c.resources
    | .error e => c.resources.record (c.attachedLog t.stream) (c.faultRecord t e)) ?_ ?_ ?_ ?_ ?_
  · intro hn
    rw [attachedLog, hn]
    exact congrArg Core.resources (core_reportFault ..)
  · exact fun s e _ _ => resources_lookupCache c t
  · intro s r epoch _ _
    exact (resources_remember ..).trans (resources_lookupCache c t)
  · intro s f hs hf _
    exact (congrArg Core.resources (core_reportFault ..)).trans (resources_missed hw hs hf)
  · intro s f hs hf _ _
    have hcore := (core_stall (((c.lookupCache t).1.missed s t f).reportFault t f) t).trans
      (core_reportFault ..)
    exact (congrArg Core.resources hcore).trans (resources_missed hw hs hf)

/-! ## Other operations -/

/-- Confined changes are in no book. -/
theorem ledger_of_confined {c c' : Controller} (h : Confined c c') : c'.ledger = c.ledger := by
  rw [h]
  rfl

/-- No command is in the book: prefetches fail without a record. -/
theorem ledger_processCommands (c : Controller) : c.processCommands.1.ledger = c.ledger := by
  rw [processed_processCommands c]
  rfl

theorem ledger_submitPageRequest (c : Controller) (r : PageRequest) :
    (c.submitPageRequest r).1.ledger = c.ledger := by
  rw [submitPageRequest_eq]
  rfl

theorem ledger_clearPageRequests (c : Controller) : c.clearPageRequests.1.ledger = c.ledger := by
  rw [clearPageRequests_eq]
  rfl

/-- A new configuration changes the capacity of the log, and nothing if it is refused. -/
theorem ledger_updateConfiguration (c : Controller) (new : Configuration) (found : StreamId) :
    (c.step (.updateConfiguration new found)).1.ledger = c.ledger ∨
      (c.step (.updateConfiguration new found)).1.ledger =
        c.ledger.resize new.queues.faultLog.toNat := by
  refine settle_preserves (P := fun d => d.ledger = c.ledger ∨
    d.ledger = c.ledger.resize new.queues.faultLog.toNat) (Or.inl rfl) fun c' hc => ?_
  obtain ⟨-, events, commands, pageRequests, -, -, -, rfl⟩ := updateConfiguration_eq_ok hc
  exact Or.inr rfl

/-- Operations other than calls to translate, new configurations and resets leave the ledger alone. -/
theorem ledger_step {c : Controller} {op : Op} (htranslate : ∀ t, op ≠ .translate t)
    (hupdate : ∀ new found, op ≠ .updateConfiguration new found) (hstat : op ≠ .resetStatistics)
    (hreset : op ≠ .reset) : (c.step op).1.ledger = c.ledger := by
  cases op with
  | translate t => exact absurd rfl (htranslate t)
  | submitCommand cmd => rfl
  | processCommands => exact ledger_processCommands c
  | clearCommands => rfl
  | submitPageRequest r => exact ledger_submitPageRequest c r
  | processPageRequests => rfl
  | clearPageRequests => exact ledger_clearPageRequests c
  | processEvents => rfl
  | clearEvents => rfl
  | addSink s => rfl
  | enableCaching enabled => cases enabled <;> rfl
  | updateConfiguration new found => exact absurd rfl (hupdate new found)
  | resetStatistics => exact absurd rfl hstat
  | reset => exact absurd rfl hreset
  | elapse ns => rfl
  | _ => exact ledger_of_confined (confined_step rfl)

/-! ## Runs -/

/-- What one operation books. -/
theorem booked_step {c : Controller} {calls : Nat} {history : List FaultRecord}
    (h : c.ledger.Booked calls history) {op : Op} (hstat : op ≠ .resetStatistics)
    (hreset : op ≠ .reset) :
    (c.step op).1.ledger.Booked (calls + op.translates.toNat) (history ++ c.recorded op) := by
  by_cases htranslate : ∃ t, op = .translate t
  · obtain ⟨t, rfl⟩ := htranslate
    show (c.translate t).1.ledger.Booked (calls + 1) (history ++ c.recorded (.translate t))
    rw [ledger_translate, recorded]
    cases (c.translate t).2 with
    | ok r => simpa using h.succeed
    | error e => exact h.fail _
  have hother : ∀ t, op ≠ .translate t := fun t ht => htranslate ⟨t, ht⟩
  have hnone : op.translates = false ∧ c.recorded op = [] := by
    cases op with
    | translate t => exact absurd rfl (hother t)
    | _ => exact ⟨rfl, rfl⟩
  rw [hnone.1, hnone.2, List.append_nil]
  by_cases hupdate : ∃ new found, op = .updateConfiguration new found
  · obtain ⟨new, found, rfl⟩ := hupdate
    rcases ledger_updateConfiguration c new found with hl | hl
    · rw [hl]
      exact h
    · rw [hl]
      exact h.resize _
  · rw [ledger_step hother (fun new found hn => hupdate ⟨new, found, hn⟩) hstat hreset]
    exact h

/-- What a run that resets nothing books: its calls to translate, and their records in order. -/
theorem booked_run {c : Controller} {calls : Nat} {history : List FaultRecord}
    (h : c.ledger.Booked calls history) {ops : List Op} (hstat : .resetStatistics ∉ ops)
    (hreset : .reset ∉ ops) :
    (c.run ops).1.ledger.Booked (calls + ops.countP Op.translates)
      (history ++ gather recorded c ops) := by
  induction ops generalizing c calls history with
  | nil =>
    rw [gather, List.append_nil]
    exact h
  | cons op ops ih =>
    rw [List.mem_cons, not_or] at hstat hreset
    have hstep := booked_step h (Ne.symm hstat.1) (Ne.symm hreset.1)
    have hrest := ih hstep hstat.2 hreset.2
    have hcount : calls + op.translates.toNat + ops.countP Op.translates =
        calls + (op :: ops).countP Op.translates := by
      rw [List.countP_cons]
      cases op.translates with
      | true => simp only [Bool.toNat_true, if_true]; omega
      | false => rfl
    rw [run_cons, gather, ← List.append_assoc, ← hcount]
    exact hrest

/-- The books of a new controller, and of one just reset, are empty. -/
theorem booked_fresh {config : Configuration} {c : Controller} (h : create config = .ok c)
    {ops : List Op} (hops : ops = [] ∨ ops.getLast? = some .reset) :
    (c.run ops).1.ledger.Booked 0 [] := by
  obtain ⟨-, rfl⟩ := create_eq_ok h
  rcases hops with rfl | hlast
  · exact ⟨rfl, rfl, rfl, rfl, ⟨rfl, Nat.le_refl _⟩, Nat.zero_le _⟩
  · -- whatever came before, a reset leaves the empty books
    rw [← List.dropLast_append_getLast? _ hlast, run_append]
    exact ⟨rfl, rfl, rfl, rfl, ⟨rfl, Nat.le_refl _⟩, Nat.zero_le _⟩

end Controller

end Iommu
