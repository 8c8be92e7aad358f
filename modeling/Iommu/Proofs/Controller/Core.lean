/-
  What a translation reads of the controller, and what leaves it alone.

  `core` is the configuration, the streams, the cache and the shared tables.  Queues, counters, the
  controller's own log, stalls and the clock are outside it: reporting a fault, stalling, counting and
  most of what a command does are equations `(f c).core = c.core`, and a property of the core survives
  them for nothing.  What remains of a call to translate and of a command is said by inversion:
  `attempt_cases` and `walkStream_cases` for the call, `runFront_eq_some` and `execute_eq_ok` for the
  command in front, and `processCommands_preserves` for the loop.
-/
import Iommu.Proofs.Controller.Inversion
import Iommu.Proofs.Tlb.Residence

namespace Iommu.Controller

/-- What a translation reads. -/
structure Core where
  config : Configuration
  streams : Std.ExtTreeMap StreamId Stream
  tlb : Tlb
  resources : Resources

/-- The core of the state. -/
def core (c : Controller) : Core :=
  { config := c.config, streams := c.streams, tlb := c.tlb, resources := c.resources }

/-! ## What leaves the core alone -/

/-- Events are offered to a queue. -/
@[simp] theorem core_emit (c : Controller) (e : Event) : (c.emit e).core = c.core := by
  unfold emit
  dsimp only
  split <;> rfl

/-- A fault is logged, counted and reported. -/
@[simp] theorem core_reportFault (c : Controller) (t : Transaction) (f : StageFault) :
    (c.reportFault t f).core = c.core := by
  unfold reportFault
  dsimp only
  rw [core_emit]
  rfl

/-- A stalled transaction is entered in its table, and asked about in the page request queue. -/
@[simp] theorem core_stall (c : Controller) (t : Transaction) : (c.stall t).core = c.core := by
  unfold stall
  dsimp only
  split
  · rfl
  · rw [core_emit]
    rfl

@[simp] theorem core_countTranslation (c : Controller) (b : Bool) :
    (c.countTranslation b).core = c.core := rfl

@[simp] theorem core_terminateStream (c : Controller) (id : StreamId) :
    (c.terminateStream id).core = c.core := rfl

@[simp] theorem core_terminatePasid (c : Controller) (id : StreamId) (pasid : Pasid) :
    (c.terminatePasid id pasid).core = c.core := rfl

@[simp] theorem core_consume (c : Controller) : c.consume.core = c.core := rfl

@[simp] theorem core_offerCompletion (c : Controller) : c.offerCompletion.core = c.core := rfl

/-- A failure is counted and reported. -/
@[simp] theorem core_failCommand (c : Controller) (cmd : Command) :
    (c.failCommand cmd).core = c.core := by
  unfold failCommand
  rw [core_emit]
  rfl

@[simp] theorem core_submitCommand (c : Controller) (cmd : Command) :
    (c.submitCommand cmd).1.core = c.core := rfl

@[simp] theorem core_clearCommands (c : Controller) : c.clearCommands.1.core = c.core := rfl

/-- A submission changes the queue, the counters and the events. -/
@[simp] theorem core_submitPageRequest (c : Controller) (r : PageRequest) :
    (c.submitPageRequest r).1.core = c.core := by
  unfold submitPageRequest
  split <;> rfl

@[simp] theorem core_processPageRequests (c : Controller) :
    c.processPageRequests.1.core = c.core := rfl

@[simp] theorem core_terminateRequest (c : Controller) (r : PageRequest) :
    (c.terminateRequest r).core = c.core := rfl

/-- Requests dropped one after the other terminate what waits for them, and nothing more. -/
theorem core_foldl_terminateRequest (rs : List PageRequest) (c : Controller) :
    (rs.foldl terminateRequest c).core = c.core := by
  induction rs generalizing c with
  | nil => rfl
  | cons r rs ih => exact (ih (c.terminateRequest r)).trans (c.core_terminateRequest r)

/-- The requests go, and with them the transactions that wait for them. -/
@[simp] theorem core_clearPageRequests (c : Controller) : c.clearPageRequests.1.core = c.core :=
  core_foldl_terminateRequest c.pageRequests.entries _

@[simp] theorem core_processEvents (c : Controller) : c.processEvents.1.core = c.core := rfl

@[simp] theorem core_clearEvents (c : Controller) : c.clearEvents.1.core = c.core := rfl

@[simp] theorem core_addSink (c : Controller) (s : Sink) : (c.addSink s).core = c.core := rfl

@[simp] theorem core_elapse (c : Controller) (ns : Nat) : (c.elapse ns).core = c.core := rfl

/-! ## A call to translate -/

-- a lookup moves entries of the cache and touches nothing else
/-- A lookup may change the cache and nothing else, so the streams stay, -/
theorem streams_lookupCache (c : Controller) (t : Transaction) :
    (c.lookupCache t).1.streams = c.streams := by
  unfold lookupCache
  split <;> rfl

/-- and the configuration, -/
theorem config_lookupCache (c : Controller) (t : Transaction) :
    (c.lookupCache t).1.config = c.config := by
  unfold lookupCache
  split <;> rfl

/-- and the shared tables and logs. -/
theorem resources_lookupCache (c : Controller) (t : Transaction) :
    (c.lookupCache t).1.resources = c.resources := by
  unfold lookupCache
  split <;> rfl

/-- A lookup moves entries and drops them, but brings none in. -/
theorem mem_lookupCache {c : Controller} {t : Transaction} {e : TlbEntry}
    (h : e ∈ (c.lookupCache t).1.tlb.entries) : e ∈ c.tlb.entries := by
  unfold lookupCache at h
  split at h
  · exact Tlb.mem_lookup h
  · exact h

/-- What a lookup finds is cached, for the page of the transaction. -/
theorem lookupCache_eq_some {c : Controller} {t : Transaction} {e : TlbEntry}
    (h : (c.lookupCache t).2 = some e) :
    e ∈ c.tlb.entries ∧ e.key = .ofAddress t.stream t.pasid t.address t.security := by
  unfold lookupCache at h
  split at h
  · obtain ⟨hmem, hkey, -⟩ := Tlb.lookup_eq_some h
    exact ⟨hmem, hkey⟩
  · cases h

/-- Storing a translation leaves the streams as they are, -/
theorem streams_remember (c : Controller) (t : Transaction) (r : Translation) (epoch : Nat) :
    (c.remember t r epoch).streams = c.streams := by
  unfold remember
  split <;> rfl

/-- and the shared tables and logs. -/
theorem resources_remember (c : Controller) (t : Transaction) (r : Translation) (epoch : Nat) :
    (c.remember t r epoch).resources = c.resources := by
  unfold remember
  split <;> rfl

/-- The one entry that remembering a translation may add. -/
theorem mem_remember {c : Controller} {t : Transaction} {r : Translation} {epoch : Nat}
    {e : TlbEntry} (h : e ∈ (c.remember t r epoch).tlb.entries) :
    e ∈ c.tlb.entries ∨ r.bypassed = false ∧
      e = { TlbEntry.ofTranslation t.stream t.pasid t.address r with timestamp := c.clock } := by
  unfold remember at h
  split at h
  · rename_i hon
    rw [Bool.and_eq_true, Bool.not_eq_true'] at hon
    have hin : e ∈ (c.tlb.insertIfCurrent c.clock (.ofTranslation t.stream t.pasid t.address r)
      epoch).1.entries := h
    rw [Tlb.insertIfCurrent] at hin
    split at hin
    · rcases Tlb.mem_insert hin with rfl | ⟨hmem, -⟩
      · exact Or.inr ⟨hon.2, rfl⟩
      · exact Or.inl hmem
    · exact Or.inl hin
  · exact Or.inl h

/-- The state after a walk that failed: the fault is counted and recorded with the stream. -/
def missed (c : Controller) (s : Stream) (t : Transaction) (f : StageFault) : Controller :=
  { c.setStream ((s.countTranslation false).recordFault c.resources c.clock t f).1 with
    resources := ((s.countTranslation false).recordFault c.resources c.clock t f).2 }

/-- The ways a walk can go: an answer that is remembered, a fault, or a fault that waits. -/
theorem walkStream_cases {P : Controller × Except Error Translation → Prop} {c : Controller}
    {s : Stream} {t : Transaction}
    (answered : ∀ r, s.walk c.resources t = .ok r →
      P ((c.setStream (s.countTranslation true)).remember t r c.tlb.epoch, .ok r))
    (ended : ∀ f, s.walk c.resources t = .error f →
      ¬(f.error.retryable = true ∧ s.config.faultMode = .stall) →
      P ((c.missed s t f).reportFault t f, .error f.error))
    (waiting : ∀ f, s.walk c.resources t = .error f → f.error.retryable = true →
      s.config.faultMode = .stall →
      P (((c.missed s t f).reportFault t f).stall t, .error f.error)) :
    P (c.walkStream s t) := by
  unfold walkStream Stream.resolve
  cases hw : s.walk c.resources t with
  | ok r => exact answered r hw
  | error f =>
    dsimp only
    split
    · rename_i hs
      rw [Bool.and_eq_true, decide_eq_true_eq] at hs
      exact waiting f hw hs.1 hs.2
    · rename_i hs
      rw [Bool.and_eq_true, decide_eq_true_eq] at hs
      exact ended f hw hs

/-- The ways a call can go: no stream, an answer of the cache, or a walk. -/
theorem attempt_cases {P : Controller × Except Error Translation → Prop} {c : Controller}
    {t : Transaction}
    (unknown : c.streams[t.stream]? = none →
      P (c.reportFault t (.unstaged (.streamNotConfigured t.stream)),
        .error (.streamNotConfigured t.stream)))
    (hit : ∀ s e, c.streams[t.stream]? = some s → (c.lookupCache t).2 = some e →
      e.permissions.allows t.access = true →
      P ((c.lookupCache t).1.setStream (s.countTranslation true), .ok (e.toTranslation t.address)))
    (walk : ∀ s, c.streams[t.stream]? = some s →
      (∀ e, (c.lookupCache t).2 = some e → e.permissions.allows t.access = false) →
      P ((c.lookupCache t).1.walkStream s t)) :
    P (c.attempt t) := by
  unfold attempt
  cases hs : c.stream t.stream with
  | error e =>
    obtain ⟨hn, rfl⟩ := stream_eq_error hs
    exact unknown hn
  | ok s =>
    have hs' := stream_eq_ok_iff.1 hs
    rcases hl : c.lookupCache t with ⟨c', found⟩
    cases found with
    | none =>
      have hw := walk s hs' (fun e he => by rw [hl] at he; cases he)
      rw [hl] at hw
      exact hw
    | some e =>
      dsimp only
      split
      · rename_i ha
        have hh := hit s e hs' (by rw [hl]) ha
        rw [hl] at hh
        exact hh
      · rename_i ha
        have hw := walk s hs' fun x hx => by
          rw [hl] at hx
          obtain rfl : e = x := Option.some.inj hx
          simpa using ha
        rw [hl] at hw
        exact hw

/-- A call is the attempt and one more count. -/
theorem translate_eq (c : Controller) (t : Transaction) :
    c.translate t = ((c.attempt t).1.countTranslation (c.attempt t).2.isOk, (c.attempt t).2) := by
  unfold translate
  rcases c.attempt t with ⟨c', r⟩
  cases r <;> rfl

/-! ## Commands -/

/-- What a command that does not fail can do: something to its stream, nothing, or empty the
    cache. -/
theorem execute_eq_ok {c c' : Controller} {cmd : Command} (h : c.execute cmd = .ok c') :
    (∃ s, c.streams[cmd.stream]? = some s ∧ c' = c.executeOn s cmd) ∨
    (cmd.kind.targetsStream = false ∧ cmd.isSync = true ∧ c' = c) ∨
    (cmd.kind.targetsStream = false ∧ cmd.isSync = false ∧ c' = c.invalidateAll.1) := by
  rw [execute] at h
  split at h
  · split at h
    · cases h
    · rename_i s hs
      exact Or.inl ⟨s, stream_eq_ok_iff.1 hs, (Except.ok.inj h).symm⟩
  · rename_i ht
    split at h
    · rename_i hs
      exact Or.inr (Or.inl ⟨by simpa using ht, hs, (Except.ok.inj h).symm⟩)
    · rename_i hs
      exact Or.inr (Or.inr ⟨by simpa using ht, by simpa using hs, (Except.ok.inj h).symm⟩)

/-- A command fails only for want of its stream. -/
theorem execute_eq_error {c : Controller} {cmd : Command} {e : Error}
    (h : c.execute cmd = .error e) :
    cmd.kind.targetsStream = true ∧ c.streams[cmd.stream]? = none := by
  rw [execute] at h
  split at h
  · rename_i ht
    split at h
    · rename_i hs
      exact ⟨ht, (stream_eq_error hs).1⟩
    · cases h
  · split at h <;> cases h

/-- The command in front is a SYNC that completes, a command carried out, or one that failed. -/
theorem runFront_eq_some {c c' : Controller} {cmd : Command} {report report' : CommandReport}
    (h : c.runFront cmd report = some (c', report')) :
    (cmd.isSync = true ∧ c.events.isFull = false ∧ c' = c.offerCompletion.countSync.consume) ∨
    (cmd.isSync = false ∧ ∃ done, c.execute cmd = .ok done ∧ c' = done.consume) ∨
    (cmd.isSync = false ∧ ∃ e, c.execute cmd = .error e ∧ c' = (c.failCommand cmd).consume) := by
  rw [runFront] at h
  split at h
  · rename_i hs
    split at h
    · cases h
    · rename_i hf
      exact Or.inl ⟨hs, by simpa using hf, (Prod.mk.inj (Option.some.inj h)).1.symm⟩
  · rename_i hs
    have hs' : cmd.isSync = false := by simpa using hs
    split at h
    · rename_i done hd
      exact Or.inr (Or.inl ⟨hs', done, hd, (Prod.mk.inj (Option.some.inj h)).1.symm⟩)
    · rename_i e he
      exact Or.inr (Or.inr ⟨hs', e, he, (Prod.mk.inj (Option.some.inj h)).1.symm⟩)

/-- No event touches the command queue, -/
@[simp] theorem commands_emit (c : Controller) (e : Event) : (c.emit e).commands = c.commands := by
  unfold emit
  dsimp only
  split <;> rfl

/-- and nothing that is stored, -/
@[simp] theorem commands_remember (c : Controller) (t : Transaction) (r : Translation)
    (epoch : Nat) : (c.remember t r epoch).commands = c.commands := by
  unfold remember
  split <;> rfl

/-- and so a prefetch does not. -/
@[simp] theorem commands_prefetch (c : Controller) (s : Stream) (cmd : Command) :
    (c.prefetch s cmd).commands = c.commands := by
  unfold prefetch
  dsimp only
  split
  · split
    · exact commands_remember ..
    · rfl
  · rfl

/-- No command queues another. -/
@[simp] theorem commands_executeOn (c : Controller) (s : Stream) (cmd : Command) :
    (c.executeOn s cmd).commands = c.commands := by
  unfold executeOn
  cases cmd.kind with
  | atcInv => exact commands_emit ..
  | prefetchAddr => exact commands_prefetch ..
  | _ => rfl

/-- Whatever a command did, it has left the queue and no other has come. -/
theorem commands_runFront {c c' : Controller} {cmd : Command} {report report' : CommandReport}
    (h : c.runFront cmd report = some (c', report')) : c'.commands = c.commands.popFront := by
  obtain ⟨-, -, rfl⟩ | ⟨-, done, hd, rfl⟩ | ⟨-, e, -, rfl⟩ := runFront_eq_some h
  · rfl
  · obtain ⟨s, -, rfl⟩ | ⟨-, -, rfl⟩ | ⟨-, -, rfl⟩ := execute_eq_ok hd
    · show (c.executeOn s cmd).commands.popFront = _
      rw [commands_executeOn]
    · rfl
    · rfl
  · show (c.failCommand cmd).commands.popFront = _
    rw [failCommand, commands_emit]

/-- What every command in front keeps, processing the queue keeps. -/
theorem processCommands_preserves {P : Controller → Prop}
    (front : ∀ c c' cmd rest report report', c.commands.entries = cmd :: rest →
      c.runFront cmd report = some (c', report') → P c → P c')
    (blocked : ∀ c, P c → P c.offerCompletion) {c : Controller} (hc : P c) :
    P c.processCommands.1 := by
  -- the list that drives the loop is what the queue holds
  have hloop : ∀ (cmds : List Command) (c : Controller) (report : CommandReport),
      c.commands.entries = cmds → P c → P (c.runCommands report cmds).1 := by
    intro cmds
    induction cmds with
    | nil => exact fun _ _ _ hc => hc
    | cons cmd rest ih =>
      intro c report he hc
      rw [runCommands]
      cases hf : c.runFront cmd report with
      | none => exact blocked c hc
      | some x =>
        refine ih x.1 x.2 ?_ (front c x.1 cmd rest report x.2 he hf hc)
        rw [commands_runFront hf, Queue.popFront, he, List.tail_cons]
  exact hloop c.commands.entries c .none rfl hc

/-! ## The configuration -/

/-- The rules of admission are the widths and whether PASID 0 is allowed. -/
theorem rulesChanged_eq_false {old new : Configuration} : rulesChanged old new = false ↔
    old.widths = new.widths ∧ old.allowPasidZero = new.allowPasidZero := by
  simp [rulesChanged]

/-- What is cached under a new configuration was cached before, under the same rules. -/
theorem mem_adopt {c : Controller} {new : Configuration} {events : Queue Event}
    {commands : Queue Command} {pageRequests : Queue PageRequest} {e : TlbEntry}
    (h : e ∈ (c.adopt new events commands pageRequests).tlb.entries) :
    e ∈ c.tlb.entries ∧ rulesChanged c.config new = false := by
  have hin : e ∈ (reshapeTlb c.tlb c.config new).entries := h
  unfold reshapeTlb at hin
  dsimp only at hin
  split at hin
  · cases hin
  · rename_i hkept
    rw [Bool.or_eq_true, not_or] at hkept
    exact ⟨Tlb.mem_resize hin, by simpa using hkept.2⟩

/-- A walk leaves the configuration as it is, whatever becomes of it. -/
theorem config_walkStream (c : Controller) (s : Stream) (t : Transaction) :
    (c.walkStream s t).1.config = c.config := by
  refine walkStream_cases (P := fun x => x.1.config = c.config) ?_ ?_ ?_
  · intro r _
    unfold remember
    split <;> rfl
  · intro f _ _
    exact congrArg Core.config (core_reportFault (c.missed s t f) t f)
  · intro f _ _ _
    exact congrArg Core.config ((core_stall ..).trans (core_reportFault (c.missed s t f) t f))

/-- Translation leaves the configuration as it is. -/
theorem config_translate (c : Controller) (t : Transaction) :
    (c.translate t).1.config = c.config := by
  rw [translate_eq]
  refine attempt_cases (P := fun x => x.1.config = c.config) ?_ ?_ ?_
  · intro _
    exact congrArg Core.config (core_reportFault ..)
  · intro s e _ _ _
    exact config_lookupCache c t
  · intro s _ _
    exact (config_walkStream ..).trans (config_lookupCache c t)

/-- No command changes the configuration. -/
theorem config_executeOn (c : Controller) (s : Stream) (cmd : Command) :
    (c.executeOn s cmd).config = c.config := by
  unfold executeOn
  cases cmd.kind with
  | atcInv => exact congrArg Core.config (core_emit ..)
  | prefetchAddr =>
    dsimp only [prefetch]
    split
    · split
      · unfold remember
        split <;> rfl
      · rfl
    · rfl
  | _ => rfl

theorem config_runFront {c c' : Controller} {cmd : Command} {report report' : CommandReport}
    (h : c.runFront cmd report = some (c', report')) : c'.config = c.config := by
  obtain ⟨-, -, rfl⟩ | ⟨-, done, hd, rfl⟩ | ⟨-, e, -, rfl⟩ := runFront_eq_some h
  · rfl
  · obtain ⟨s, -, rfl⟩ | ⟨-, -, rfl⟩ | ⟨-, -, rfl⟩ := execute_eq_ok hd
    · exact config_executeOn c s cmd
    · rfl
    · rfl
  · exact congrArg Core.config (core_failCommand c cmd)

/-- Two operations change the configuration: the one that turns caching on or off, and the one that
    puts another in force. -/
theorem config_step {c : Controller} (op : Op) (hcaching : ∀ b, op ≠ .enableCaching b)
    (hupdate : ∀ new found, op ≠ .updateConfiguration new found) : (c.step op).1.config = c.config := by
  have hsettle : ∀ r : Except Error Controller, (∀ c', r = .ok c' → c'.config = c.config) →
      (c.settle r).1.config = c.config := fun r h =>
    settle_preserves (P := fun d => d.config = c.config) rfl h
  have hflag : ∀ r : Except Error (Controller × Bool),
      (∀ c' b, r = .ok (c', b) → c'.config = c.config) → (c.settleFlag r).1.config = c.config :=
    fun r h => settleFlag_preserves (P := fun d => d.config = c.config) rfl h
  cases op with
  | configure id config =>
    refine hsettle _ fun c' hc => ?_
    obtain ⟨s, -, -, rfl⟩ | ⟨-, -, s, -, rfl⟩ := configure_eq_ok hc <;> rfl
  | removeStream id =>
    refine hsettle _ fun c' hc => ?_
    obtain ⟨s, -, rfl⟩ := removeStream_eq_ok hc
    rfl
  | enable id =>
    refine hsettle _ fun c' hc => ?_
    obtain ⟨s, -, rfl⟩ := enable_eq_ok hc
    rfl
  | disable id =>
    refine hsettle _ fun c' hc => ?_
    obtain ⟨s, -, rfl⟩ := disable_eq_ok hc
    rfl
  | attachTable id table =>
    refine hsettle _ fun c' hc => ?_
    obtain ⟨s, -, rfl⟩ := attachTable_eq_ok hc
    rfl
  | attachLog id log =>
    refine hsettle _ fun c' hc => ?_
    obtain ⟨s, -, rfl⟩ := attachLog_eq_ok hc
    rfl
  | createPasid id pasid =>
    refine hsettle _ fun c' hc => ?_
    obtain ⟨s, s', -, -, rfl⟩ := createPasid_eq_ok hc
    rfl
  | removePasid id pasid =>
    refine hsettle _ fun c' hc => ?_
    obtain ⟨s, -, rfl⟩ := removePasid_eq_ok hc
    rfl
  | clearPasids id =>
    refine hsettle _ fun c' hc => ?_
    obtain ⟨s, -, rfl⟩ := clearPasids_eq_ok hc
    rfl
  | map id pasid m =>
    refine hsettle _ fun c' hc => ?_
    obtain ⟨s, t, -, -, -, rfl⟩ := map_eq_ok hc
    rfl
  | unmap id pasid a =>
    refine hflag _ fun c' b hc => ?_
    obtain ⟨s, t, -, -, rfl⟩ := unmap_eq_ok hc
    rfl
  | mapPages id pasid ms =>
    refine hsettle _ fun c' hc => ?_
    obtain ⟨s, t, -, -, -, rfl⟩ := mapPages_eq_ok hc
    rfl
  | unmapPages id pasid as =>
    refine hsettle _ fun c' hc => ?_
    obtain ⟨s, t, -, -, rfl⟩ := unmapPages_eq_ok hc
    rfl
  | editTable id change =>
    refine hflag _ fun c' b hc => ?_
    obtain rfl := editTable_eq_ok hc
    rfl
  | translate t => exact config_translate c t
  | processCommands =>
    exact processCommands_preserves (P := fun d => d.config = c.config)
      (fun _ _ _ _ _ _ _ hf h => (config_runFront hf).trans h) (fun _ h => h) rfl
  | submitPageRequest r => exact congrArg Core.config (core_submitPageRequest c r)
  | clearPageRequests => exact congrArg Core.config (core_clearPageRequests c)
  | enableCaching enabled => exact absurd rfl (hcaching enabled)
  | updateConfiguration new found => exact absurd rfl (hupdate new found)
  | _ => rfl

end Iommu.Controller
