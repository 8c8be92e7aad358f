/-
  The books of translations and faults.

  What the controller counts agrees with what was asked of it (`Accounts`): the calls to translate are
  its successes and failures, the failures are the faults recorded, and these are in the fault log or
  were discarded from its old end.  Each stream counts alike, because every attempt that it counts is
  counted as a success or met a fault (`balanced_step`).  And of a single call, `RecordsFault` says what
  it leaves in the log of the controller and in the log attached to its stream.
-/
import Iommu.Proofs.Controller.Sized
import Iommu.Proofs.Controller.StreamTable
import Iommu.Proofs.Fault.Ledger

namespace Iommu

/-! ## Streams -/

/-- Every attempt to translate on the stream is counted as a success or as a fault. -/
def Stream.Balanced (s : Stream) : Prop := s.translations = s.successes + s.faults

/-- An edit counts an attempt together with its outcome, or counts nothing. -/
theorem Stream.Balanced.edit {s s' : Stream} (h : s.Balanced) (he : s.Edit s') : s'.Balanced := by
  have hbalanced : s.translations = s.successes + s.faults := h
  cases he with
  | pasidCreated hp => obtain ⟨-, rfl | ⟨-, -, rfl⟩⟩ := createPasid_eq_ok hp <;> exact h
  | served =>
    show s.translations + 1 = s.successes + 1 + s.faults
    omega
  | faulted =>
    show s.translations + 1 = s.successes + (s.faults + 1)
    omega
  | _ => exact h

namespace Controller

/-- The counts of every stream add up. -/
def Balanced (c : Controller) : Prop :=
  ∀ (id : StreamId) (s : Stream), c.streams[id]? = some s → s.Balanced

namespace Balanced

variable {c c' : Controller}

/-- Only the streams are balanced. -/
theorem congr (h : c.Balanced) (hs : c'.streams = c.streams) : c'.Balanced := by
  rw [Balanced, hs]
  exact h

/-- One stream is put in place. -/
theorem setStream (h : c.Balanced) {s : Stream} (hs : s.Balanced)
    (hstreams : c'.streams = (c.setStream s).streams) : c'.Balanced := by
  intro id x hx
  rw [hstreams, getElem?_setStream] at hx
  split at hx
  · obtain rfl := Option.some.inj hx
    exact hs
  · exact h id x hx

/-- Every stream is changed alike. -/
theorem mapStreams (h : c.Balanced) {f : Stream → Stream} (hf : ∀ s, s.Balanced → (f s).Balanced)
    (hstreams : c'.streams = (c.mapStreams f).streams) : c'.Balanced := by
  intro id x hx
  rw [hstreams, getElem?_mapStreams, Option.map_eq_some_iff] at hx
  obtain ⟨s, hs, rfl⟩ := hx
  exact hf s (h id s hs)

end Balanced

/-- Whatever happens to the stream table keeps the counts of every stream in balance. -/
theorem Balanced.restream {c c' : Controller} (h : c.Balanced) (hs : Restreamed c c'.streams) :
    c'.Balanced := by
  generalize hst : c'.streams = streams at hs
  cases hs with
  | kept => exact h.congr hst
  | @edited id s s' hget he => exact h.setStream ((h id s hget).edit he) hst
  | @added id config s _ hnew =>
    refine h.setStream (s := s) ?_ hst
    rw [Stream.create] at hnew
    split at hnew
    · obtain rfl := Except.ok.inj hnew
      rfl
    · cases hnew
  | removed id =>
    intro id' x hx
    rw [hst, Std.ExtTreeMap.getElem?_erase] at hx
    split at hx
    · cases hx
    · exact h id' x hx
  | faultModeSet mode => exact h.mapStreams (f := fun s => s.setFaultMode mode) (fun _ hs => hs) hst
  | uncounted => exact h.mapStreams (f := Stream.resetStatistics) (fun _ _ => rfl) hst
  | emptied =>
    intro id s hget
    rw [hst] at hget
    simp at hget

/-- A translation adds one to both sides of its stream, and nothing else counts. -/
theorem balanced_step {c : Controller} (h : c.Balanced) (op : Op) : (c.step op).1.Balanced := by
  by_cases hupdate : ∃ new found, op = .updateConfiguration new found
  · obtain ⟨new, found, rfl⟩ := hupdate
    refine settle_preserves h fun c' hc => ?_
    obtain ⟨-, events, commands, pageRequests, -, -, -, rfl⟩ := updateConfiguration_eq_ok hc
    exact h.mapStreams (f := fun s => s.setLimits (limitsOf new)) (fun _ hs => hs) rfl
  · exact h.restream (restreamed_step c fun new found he => hupdate ⟨new, found, he⟩)

/-- In every reachable state the counts of every stream add up. -/
theorem balanced_run {config : Configuration} {c : Controller} (h : create config = .ok c)
    (ops : List Op) : (c.run ops).1.Balanced := by
  obtain ⟨-, rfl⟩ := create_eq_ok h
  have hstart : (start config [] [] .empty 0).Balanced := by
    intro id s hs
    simp [start] at hs
  exact run_preserves (P := Balanced) (fun _ op hc => balanced_step hc op) hstart ops

/-! ## Calls -/

/-- What a call to translate leaves in the logs. -/
structure RecordsFault (c : Controller) (t : Transaction) : Prop where
  /-- A call that succeeds records nothing anywhere. -/
  served : ∀ r, (c.translate t).2 = .ok r →
    (c.translate t).1.faultLog = c.faultLog ∧ (c.translate t).1.resources = c.resources
  /-- A call that fails adds its record to the controller's log, as the newest one, and to the log
      attached to the stream if there is one. -/
  failed : ∀ e, (c.translate t).2 = .error e →
    (c.translate t).1.faultLog = (c.faultLog.record (c.faultRecord t e)).1 ∧
      (c.translate t).1.faultLog.records.getLast? = some (c.faultRecord t e) ∧
      (c.translate t).1.resources =
        c.resources.record (c.attachedLog t.stream) (c.faultRecord t e)

/-- A call that fails leaves one record in the log, and one with its stream. -/
theorem recordsFault {c : Controller} (hw : c.WellFormed) (hs : c.Sized) (t : Transaction) :
    c.RecordsFault t := by
  have hledger := ledger_translate c t
  have hresources := resources_translate hw t
  refine ⟨fun r hr => ?_, fun e he => ?_⟩
  · rw [hr] at hledger hresources
    exact ⟨congrArg Ledger.log hledger, hresources⟩
  · rw [he] at hledger hresources
    have hlog : (c.translate t).1.faultLog = (c.faultLog.record (c.faultRecord t e)).1 :=
      congrArg Ledger.log hledger
    refine ⟨hlog, ?_, hresources⟩
    rw [hlog]
    exact hs.queued.faultLog.getLast?_record _

/-! ## Books -/

/-- The counts of translations and faults agree with a number of calls and the records that they left. -/
structure Accounts (c : Controller) (calls : Nat) (records : List FaultRecord) : Prop where
  calls : c.counters.translations = calls
  outcomes : c.counters.translations = c.counters.successes + c.counters.failures
  faults : c.counters.faults = c.counters.failures
  logged : c.counters.failures = c.faultLog.size + c.counters.faultsDiscarded
  /-- The log holds the newest records, in order. -/
  newest : c.faultLog.records = records.drop c.counters.faultsDiscarded
  streams : c.Balanced

/-- Since construction or the last reset, if statistics were not reset, every call to translate was
    counted once and every failing one recorded once; and so it will be with the next. -/
theorem translations_accounted {config : Configuration} {c : Controller}
    (h : create config = .ok c) (before after : List Op)
    (hfresh : before = [] ∨ before.getLast? = some .reset) (hreset : .reset ∉ after)
    (hstat : .resetStatistics ∉ after) :
    (c.run (before ++ after)).1.Accounts (after.countP Op.translates)
        (gather recorded (c.run before).1 after) ∧
      ∀ t, (c.run (before ++ after)).1.RecordsFault t := by
  have hw := (wellFormed_of_create h).run (before ++ after)
  refine ⟨?_, recordsFault hw (sized_run h _)⟩
  have hbooked := booked_run (booked_fresh h hfresh) hstat hreset
  rw [Nat.zero_add, List.nil_append] at hbooked
  have hbalanced := balanced_run h (before ++ after)
  rw [run_append] at hbalanced ⊢
  exact {
    calls := hbooked.translations
    outcomes := hbooked.outcomes
    faults := hbooked.faults
    logged := hbooked.failures.trans hbooked.log.size_add_lost.symm
    newest := hbooked.log.records
    streams := hbalanced }

/-- After a reset one call is answered by the tables and one by the cache, one fails on its stream and
    one for want of a stream; a log with room for one record has discarded the older. -/
theorem translations_accounted_small_log :
    let config : Configuration := { queues := { faultLog := 1 } }
    let c := start config [] [] .empty 0
    let ask (stream : StreamId) (a : UInt64) : Op := .translate ⟨stream, 0, a, .read, .nonSecure⟩
    let after : List Op := [.configure 1 {}, .createPasid 1 0, .attachLog 1 (some 3),
      .map 1 0 ⟨0x1000, 0x8000, .full, .nonSecure⟩, ask 1 0x1000, ask 1 0x1234, ask 1 0x5000,
      ask 2 0x1000]
    let d := (c.run ([.reset] ++ after)).1
    create config = .ok c ∧ .reset ∉ after ∧ .resetStatistics ∉ after ∧
      d.counters.successes = 2 ∧ d.counters.faultsDiscarded = 1 ∧
      d.faultLog.records.map (fun r => (r.stream, r.stage)) = [(2, .unstaged)] ∧
      (d.resources.log 3).records.map (fun r => (r.stream, r.stage)) = [(1, .stage1)] ∧
      d.Accounts (after.countP Op.translates) (gather recorded (c.run [.reset]).1 after) ∧
      ∀ t, d.RecordsFault t := by
  intro config c ask after d
  have hreset : .reset ∉ after := by simp [after, ask]
  have hstat : .resetStatistics ∉ after := by simp [after, ask]
  have hc : create config = .ok c := rfl
  obtain ⟨haccounts, hcalls⟩ := translations_accounted hc [.reset] after (Or.inr rfl) hreset hstat
  exact ⟨hc, hreset, hstat, by decide +kernel, by decide +kernel, by decide +kernel,
    by decide +kernel, haccounts, hcalls⟩

end Controller

end Iommu
