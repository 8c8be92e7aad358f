/-
  Stalled transactions, and what may still release them.

  `waiting` is the part of the state that decides what becomes of a stalled transaction: the stalls
  themselves, the page requests and the commands that are queued, and the three counters of what left
  the table or never entered it.  Most operations leave all of it alone and leave every stream its
  PASIDs (`idle_step`).  The others are few: a call to translate (`waiting_translate`), the removal of
  a PASID or a stream, and the operations on the two queues.  Of the commands in front only two release
  anything, each the stalls of one range of pages (`waiting_runFront`).
-/
import Iommu.Proofs.Controller.Kept

namespace Iommu

namespace Stream

/-- A walk fails for a reason that software can mend only inside its stages. -/
theorem enters_of_retryable {s : Stream} {r : Resources} {t : Transaction} {f : StageFault}
    (h : s.walk r t = .error f) (hr : f.error.retryable = true) :
    s.config.translationEnabled = true ∧ ∃ first, s.Enters t first := by
  rw [walk, walkWith] at h
  split at h
  · rename_i ht
    refine ⟨ht, ?_⟩
    split at h
    · -- the conditions before the stages are none of the two kinds
      rename_i e he
      obtain rfl := Except.error.inj h
      rw [entryTable] at he
      split at he
      · obtain rfl := Except.error.inj he
        cases hr
      · split at he
        · obtain rfl := Except.error.inj he
          cases hr
        · split at he
          · rename_i e' he'
            obtain rfl := Except.error.inj he
            rw [pasidTable] at he'
            split at he'
            · cases he'
            · obtain rfl := Except.error.inj he'
              cases hr
          · split at he
            · cases he
            · obtain rfl := Except.error.inj he
              cases hr
    · rename_i first hf
      exact ⟨first, entryTable_eq_ok_iff.1 hf⟩
  · cases h

/-- So it does only when the PASID exists. -/
theorem hasPasid_of_retryable {s : Stream} {r : Resources} {t : Transaction} {f : StageFault}
    (h : s.walk r t = .error f) (hr : f.error.retryable = true) : s.hasPasid t.pasid = true := by
  obtain ⟨-, first, henters⟩ := enters_of_retryable h hr
  exact hasPasid_eq_true.2 ⟨first, henters.present⟩

end Stream

namespace Controller

/-- What decides the fate of stalled transactions. -/
structure Waiting where
  stalls : List Stall
  requests : List PageRequest
  commands : List Command
  resumed : Nat
  terminated : Nat
  overflows : Nat

/-- The stalled transactions of a controller, the queues that release them and the counters of
    what became of them. -/
def waiting (c : Controller) : Waiting :=
  { stalls := c.stalls.stalls
    requests := c.pageRequests.entries
    commands := c.commands.entries
    resumed := c.counters.stallsResumed
    terminated := c.counters.stallsTerminated
    overflows := c.counters.pageOverflows }

/-- A stream is configured and has a PASID. -/
def Hosts (c : Controller) (id : StreamId) (pasid : Pasid) : Prop :=
  ∃ s : Stream, c.streams[id]? = some s ∧ s.hasPasid pasid = true

/-- Operations that neither stall nor release and leave both queues as they are. -/
def Op.idle : Op → Bool
  | .removeStream _ => false
  | .removePasid _ _ => false
  | .clearPasids _ => false
  | .translate _ => false
  | .submitCommand _ => false
  | .processCommands => false
  | .clearCommands => false
  | .submitPageRequest _ => false
  | .processPageRequests => false
  | .clearPageRequests => false
  | .resetStatistics => false
  | .reset => false
  | _ => true

/-! ## Parts that leave the waiting alone -/

theorem waiting_emit (c : Controller) (e : Event) : (c.emit e).waiting = c.waiting := by
  unfold emit
  dsimp only
  split <;> rfl

/-- A report changes events, counters and the log. -/
theorem front_reportFault (c : Controller) (t : Transaction) (f : StageFault) :
    (c.reportFault t f).pageRequests = c.pageRequests ∧ (c.reportFault t f).stamp = c.stamp := by
  unfold reportFault emit
  dsimp only
  split <;> exact ⟨rfl, rfl⟩

theorem waiting_reportFault (c : Controller) (t : Transaction) (f : StageFault) :
    (c.reportFault t f).waiting = c.waiting := by
  unfold reportFault
  dsimp only
  rw [waiting_emit]
  rfl

theorem waiting_failCommand (c : Controller) (cmd : Command) :
    (c.failCommand cmd).waiting = c.waiting := by
  rw [failCommand, waiting_emit]
  rfl

theorem waiting_countTranslation (c : Controller) (b : Bool) :
    (c.countTranslation b).waiting = c.waiting := by
  cases b <;> rfl

theorem waiting_remember (c : Controller) (t : Transaction) (r : Translation) (epoch : Nat) :
    (c.remember t r epoch).waiting = c.waiting := by
  unfold remember
  split <;> rfl

theorem waiting_lookupCache (c : Controller) (t : Transaction) :
    (c.lookupCache t).1.waiting = c.waiting := by
  unfold lookupCache
  split <;> rfl

/-- Asking the cache touches neither the page requests nor the clock stamp. -/
theorem front_lookupCache (c : Controller) (t : Transaction) :
    (c.lookupCache t).1.pageRequests = c.pageRequests ∧
      (c.lookupCache t).1.stamp = c.stamp := by
  unfold lookupCache
  split <;> exact ⟨rfl, rfl⟩

theorem waiting_prefetch (c : Controller) (s : Stream) (cmd : Command) :
    (c.prefetch s cmd).waiting = c.waiting := by
  unfold prefetch
  dsimp only
  split
  · split
    · exact waiting_remember ..
    · rfl
  · rfl

/-! ## Hosting -/

namespace Hosts

variable {c c' : Controller} {id : StreamId} {pasid : Pasid}

/-- Hosting is read off the stream table. -/
theorem congr (h : c.Hosts id pasid) (hs : c'.streams = c.streams) : c'.Hosts id pasid := by
  obtain ⟨s, hget, hp⟩ := h
  exact ⟨s, hs ▸ hget, hp⟩

/-- A stream replaced by one that has its PASIDs. -/
theorem setStream (h : c.Hosts id pasid) {id' : StreamId} {s : Stream}
    (hs : c.streams[id']? = some s) (s' : Stream) (hid : s'.id = id')
    (hp : id = id' → s.hasPasid pasid = true → s'.hasPasid pasid = true) :
    (c.setStream s').Hosts id pasid := by
  obtain ⟨s₀, hget, hp₀⟩ := h
  by_cases he : id' = id
  · subst he
    obtain rfl : s = s₀ := Option.some.inj (hs.symm.trans hget)
    refine ⟨s', ?_, hp rfl hp₀⟩
    rw [getElem?_setStream, if_pos hid]
  · refine ⟨s₀, ?_, hp₀⟩
    rw [getElem?_setStream, if_neg (hid ▸ he), hget]

/-- A change of every stream that keeps their PASIDs keeps what is hosted. -/
theorem mapStreams (h : c.Hosts id pasid) {f : Stream → Stream}
    (hp : ∀ s, (f s).pasids = s.pasids) : (c.mapStreams f).Hosts id pasid := by
  obtain ⟨s, hget, hp₀⟩ := h
  refine ⟨f s, ?_, ?_⟩
  · rw [getElem?_mapStreams, hget, Option.map_some]
  · rw [Stream.hasPasid, hp]
    exact hp₀

end Hosts

theorem hasPasid_setPasidTable {s : Stream} {p pasid : Pasid} (t : PageTable)
    (h : s.hasPasid pasid = true) : (s.setPasidTable p t).hasPasid pasid = true := by
  rw [Stream.hasPasid_eq_true] at h ⊢
  rw [Stream.getElem?_setPasidTable]
  split
  · exact ⟨t, rfl⟩
  · exact h

theorem hasPasid_createPasid {s s' : Stream} {p pasid : Pasid} (hc : s.createPasid p = .ok s')
    (h : s.hasPasid pasid = true) : s'.hasPasid pasid = true := by
  obtain ⟨-, rfl | ⟨-, -, rfl⟩⟩ := Stream.createPasid_eq_ok hc
  · exact h
  · exact hasPasid_setPasidTable .empty h

/-! ## Idle operations -/

/-- What an idle operation leaves as it was. -/
structure Idle (c c' : Controller) : Prop where
  waiting : c'.waiting = c.waiting
  hosts : ∀ id pasid, c.Hosts id pasid → c'.Hosts id pasid

theorem Idle.refl (c : Controller) : Idle c c := ⟨rfl, fun _ _ h => h⟩

/-- A step that leaves the waiting transactions and the streams is idle. -/
theorem Idle.of_streams {c c' : Controller} (hw : c'.waiting = c.waiting)
    (hs : c'.streams = c.streams) : Idle c c' :=
  ⟨hw, fun _ _ h => h.congr hs⟩

/-- A stream replaced by one that has its PASIDs. -/
theorem Idle.replace {c c' : Controller} {id : StreamId} {s : Stream}
    (hs : c.streams[id]? = some s) (s' : Stream) (hid : s'.id = id)
    (hp : ∀ pasid, s.hasPasid pasid = true → s'.hasPasid pasid = true)
    (hw : c'.waiting = c.waiting) (hstreams : c'.streams = (c.setStream s').streams) :
    Idle c c' :=
  ⟨hw, fun _ pasid h => (h.setStream hs s' hid fun _ => hp pasid).congr hstreams⟩

/-- An idle operation leaves what waits, and keeps every PASID that there is. -/
theorem idle_step {c : Controller} (hw : c.WellFormed) {op : Op} (h : op.idle = true) :
    Idle c (c.step op).1 := by
  have hsettle : ∀ r : Except Error Controller, (∀ c', r = .ok c' → Idle c c') →
      Idle c (c.settle r).1 := fun _ h => settle_preserves (.refl c) h
  have hflag : ∀ r : Except Error (Controller × Bool), (∀ c' b, r = .ok (c', b) → Idle c c') →
      Idle c (c.settleFlag r).1 := fun _ h => settleFlag_preserves (.refl c) h
  cases op with
  | configure id config =>
    refine hsettle _ fun c' hc => ?_
    obtain ⟨s, hs, -, rfl⟩ | ⟨hn, -, s, hs, rfl⟩ := configure_eq_ok hc
    · exact .replace hs { s with config } (hw.keyed id s hs) (fun _ h => h) rfl rfl
    · -- the new stream takes the place of none
      refine ⟨rfl, fun id' pasid ⟨s₀, hs₀, hp⟩ => ⟨s₀, ?_, hp⟩⟩
      rw [getElem?_setStream, (Stream.create_eq_ok hs).2.1, if_neg ?_, hs₀]
      rintro rfl
      rw [hn] at hs₀
      cases hs₀
  | enable id =>
    refine hsettle _ fun c' hc => ?_
    obtain ⟨s, hs, rfl⟩ := enable_eq_ok hc
    exact .replace hs (s.setEnabled true) (hw.keyed id s hs) (fun _ h => h) rfl rfl
  | disable id =>
    refine hsettle _ fun c' hc => ?_
    obtain ⟨s, hs, rfl⟩ := disable_eq_ok hc
    exact .replace hs (s.setEnabled false) (hw.keyed id s hs) (fun _ h => h) rfl rfl
  | setFaultMode mode => exact ⟨rfl, fun _ _ h => h.mapStreams fun _ => rfl⟩
  | attachTable id table =>
    refine hsettle _ fun c' hc => ?_
    obtain ⟨s, hs, rfl⟩ := attachTable_eq_ok hc
    exact .replace hs (s.attachTable table) (hw.keyed id s hs) (fun _ h => h) rfl rfl
  | attachLog id log =>
    refine hsettle _ fun c' hc => ?_
    obtain ⟨s, hs, rfl⟩ := attachLog_eq_ok hc
    exact .replace hs (s.attachLog log) (hw.keyed id s hs) (fun _ h => h) rfl rfl
  | createPasid id pasid =>
    refine hsettle _ fun c' hc => ?_
    obtain ⟨s, s', hs, hp, rfl⟩ := createPasid_eq_ok hc
    refine .replace hs s' ?_ (fun _ h => hasPasid_createPasid hp h) rfl rfl
    obtain ⟨-, rfl | ⟨-, -, rfl⟩⟩ := Stream.createPasid_eq_ok hp
    · exact hw.keyed id s' hs
    · exact hw.keyed id s hs
  | map id pasid m =>
    refine hsettle _ fun c' hc => ?_
    obtain ⟨s, t, hs, -, -, rfl⟩ := map_eq_ok hc
    exact .replace hs (s.setPasidTable pasid _) (hw.keyed id s hs)
      (fun _ h => hasPasid_setPasidTable _ h) rfl rfl
  | unmap id pasid a =>
    refine hflag _ fun c' b hc => ?_
    obtain ⟨s, t, hs, -, rfl⟩ := unmap_eq_ok hc
    exact .replace hs (s.setPasidTable pasid _) (hw.keyed id s hs)
      (fun _ h => hasPasid_setPasidTable _ h) rfl rfl
  | mapPages id pasid ms =>
    refine hsettle _ fun c' hc => ?_
    obtain ⟨s, t, hs, -, -, rfl⟩ := mapPages_eq_ok hc
    exact .replace hs (s.setPasidTable pasid _) (hw.keyed id s hs)
      (fun _ h => hasPasid_setPasidTable _ h) rfl rfl
  | unmapPages id pasid as =>
    refine hsettle _ fun c' hc => ?_
    obtain ⟨s, t, hs, -, rfl⟩ := unmapPages_eq_ok hc
    exact .replace hs (s.setPasidTable pasid _) (hw.keyed id s hs)
      (fun _ h => hasPasid_setPasidTable _ h) rfl rfl
  | editTable id change =>
    refine hflag _ fun c' b hc => ?_
    obtain rfl := editTable_eq_ok hc
    exact .of_streams rfl rfl
  | enableCaching enabled => cases enabled <;> exact .of_streams rfl rfl
  | updateConfiguration new found =>
    refine hsettle _ fun c' hc => ?_
    obtain ⟨-, events, commands, pageRequests, -, hcmd, hreq, rfl⟩ := updateConfiguration_eq_ok hc
    refine ⟨?_, fun _ _ h => ?_⟩
    · -- a queue is resized only if what it holds fits, so it keeps its entries
      show ({ c.waiting with requests := pageRequests.entries, commands := commands.entries } :
        Waiting) = c.waiting
      rw [Queue.entries_resizeTo hcmd, Queue.entries_resizeTo hreq]
      rfl
    · have hmap := h.mapStreams (f := fun s => s.setLimits (limitsOf new)) fun _ => rfl
      exact hmap.congr rfl
  | processEvents => exact .of_streams rfl rfl
  | clearEvents => exact .of_streams rfl rfl
  | addSink s => exact .of_streams rfl rfl
  | invalidateAll => exact .of_streams rfl rfl
  | invalidateStream id => exact .of_streams rfl rfl
  | invalidatePasid id pasid => exact .of_streams rfl rfl
  | elapse ns => exact .of_streams rfl rfl
  | _ => cases h

/-! ## Calls to translate -/

/-- Whether an answer to a transaction means that it has to wait: it failed for a reason that
    software can mend, on a stream that stalls. -/
def heldBack (c : Controller) (t : Transaction) (answer : Except Error Translation) : Bool :=
  match answer, c.streams[t.stream]? with
  | .error e, some s => e.retryable && s.config.faultMode = .stall
  | _, _ => false

/-- A failed translation is held back when the stream stalls and the fault can be mended. -/
theorem heldBack_error {c : Controller} {t : Transaction} {s : Stream}
    (hs : c.streams[t.stream]? = some s) (e : Error) :
    c.heldBack t (.error e) = (e.retryable && s.config.faultMode = .stall) := by
  simp [heldBack, hs]

/-- What a call to translate does to the waiting, given whether the transaction is held back. -/
inductive Arrival (c : Controller) (t : Transaction) : Bool → Waiting → Prop
  | served : Arrival c t false c.waiting
  | overflowed : c.pageRequests.isFull = true →
      Arrival c t true { c.waiting with overflows := c.waiting.overflows + 1 }
  | recorded : c.pageRequests.isFull = false → c.Hosts t.stream t.pasid →
      Arrival c t true
        { c.waiting with
          stalls := c.waiting.stalls ++ [⟨t, c.stamp⟩]
          requests := c.waiting.requests ++
            [{ PageRequest.ofTransaction t with timestamp := c.stamp }] }

/-- Stalling records the transaction with its page request, or counts an overflow when that
    queue is full. -/
theorem arrival_stall {c d : Controller} {t : Transaction} (hw : d.waiting = c.waiting)
    (hfull : d.pageRequests.isFull = c.pageRequests.isFull) (hstamp : d.stamp = c.stamp)
    (hhost : c.Hosts t.stream t.pasid) : Arrival c t true (d.stall t).waiting := by
  unfold stall
  dsimp only
  cases hf : d.pageRequests.isFull with
  | true =>
    have harrival := Arrival.overflowed (t := t) (hfull.symm.trans hf)
    rw [← hw] at harrival
    rw [if_pos rfl, Queue.push_of_isFull hf]
    exact harrival
  | false =>
    have harrival := Arrival.recorded (hfull.symm.trans hf) hhost
    rw [← hw, ← hstamp] at harrival
    rw [if_neg Bool.false_ne_true, waiting_emit, Queue.push_of_not_isFull hf]
    exact harrival

/-- The walk of a known stream holds back exactly the transactions that `heldBack` names. -/
theorem waiting_walkStream {c d : Controller} {s : Stream} {t : Transaction}
    (hs : c.streams[t.stream]? = some s) (hw : d.waiting = c.waiting)
    (hfull : d.pageRequests.isFull = c.pageRequests.isFull) (hstamp : d.stamp = c.stamp) :
    Arrival c t (c.heldBack t (d.walkStream s t).2) (d.walkStream s t).1.waiting := by
  refine walkStream_cases (P := fun x => Arrival c t (c.heldBack t x.2) x.1.waiting) ?_ ?_ ?_
  · intro r _
    rw [waiting_remember]
    rw [show (d.setStream (s.countTranslation true)).waiting = c.waiting from hw]
    exact .served
  · intro f _ hstay
    have hfalse : c.heldBack t (.error f.error) = false := by
      rw [heldBack_error hs]
      simpa using hstay
    rw [waiting_reportFault, show (d.missed s t f).waiting = c.waiting from hw, hfalse]
    exact .served
  · -- only a stage faults so that software can mend it, and the stages need the PASID
    intro f hf hr hm
    have htrue : c.heldBack t (.error f.error) = true := by
      rw [heldBack_error hs]
      simp [hr, hm]
    rw [htrue]
    refine arrival_stall ?_ ?_ ?_ ⟨s, hs, Stream.hasPasid_of_retryable hf hr⟩
    · rw [waiting_reportFault]
      exact hw
    · rw [(front_reportFault ..).1]
      exact hfull
    · rw [(front_reportFault ..).2]
      exact hstamp

/-- A call to translate serves the transaction, or holds it back and stalls it or drops it. -/
theorem waiting_translate (c : Controller) (t : Transaction) :
    Arrival c t (c.heldBack t (c.translate t).2) (c.translate t).1.waiting := by
  rw [translate_eq, waiting_countTranslation]
  refine attempt_cases (P := fun x => Arrival c t (c.heldBack t x.2) x.1.waiting) ?_ ?_ ?_
  · intro hn
    have hfalse : c.heldBack t (.error (.streamNotConfigured t.stream)) = false := by
      simp [heldBack, hn]
    rw [waiting_reportFault, hfalse]
    exact .served
  · intro s e _ _ _
    rw [show ((c.lookupCache t).1.setStream (s.countTranslation true)).waiting =
      (c.lookupCache t).1.waiting from rfl, waiting_lookupCache]
    exact .served
  · intro s hs _
    obtain ⟨hrequests, hstamp⟩ := front_lookupCache c t
    exact waiting_walkStream hs (waiting_lookupCache c t) (congrArg Queue.isFull hrequests) hstamp

/-- Calls to translate and commands leave every stream its PASIDs. -/
theorem kept_hosts (id : StreamId) (pasid : Pasid) : Kept fun c => c.Hosts id pasid where
  congr h hcore := h.congr (congrArg Core.streams hcore)
  drop _ h _ := h.congr rfl
  answered {_ id s} hw h hs := h.setStream hs (s.countTranslation true) (hw.keyed id s hs)
    fun _ hp => hp
  missed {c id s} hw h hs t f :=
    (h.setStream hs ((s.countTranslation false).recordFault c.resources c.clock t f).1
      (hw.keyed id s hs) fun _ hp => hp).congr rfl
  remembered _ h _ _ _ := h.congr (streams_remember ..)

/-! ## Commands in front -/

/-- Executing a command on a stream leaves the stream table. -/
theorem streams_executeOn (c : Controller) (s : Stream) (cmd : Command) :
    (c.executeOn s cmd).streams = c.streams := by
  unfold executeOn
  cases cmd.kind with
  | atcInv => exact congrArg Core.streams (core_emit ..)
  | prefetchAddr =>
    dsimp only [prefetch]
    split
    · split
      · exact streams_remember ..
      · rfl
    · rfl
  | _ => rfl

/-- No command touches the stream table. -/
theorem streams_runFront {c c' : Controller} {cmd : Command} {report report' : CommandReport}
    (h : c.runFront cmd report = some (c', report')) : c'.streams = c.streams := by
  obtain ⟨-, -, rfl⟩ | ⟨-, done, hd, rfl⟩ | ⟨-, e, -, rfl⟩ := runFront_eq_some h
  · rfl
  · obtain ⟨s, -, rfl⟩ | ⟨-, -, rfl⟩ | ⟨-, -, rfl⟩ := execute_eq_ok hd
    · exact streams_executeOn c s cmd
    · rfl
    · rfl
  · exact congrArg Core.streams (core_failCommand c cmd)

/-- The range of pages whose stalls a command releases, if it releases any. -/
def releaseRange? (cmd : Command) : Option PageRange :=
  match cmd.kind with
  | .priResp => some (.ofPage cmd.start)
  | .resume => some cmd.range
  | _ => none

/-- Only a command naming a stream releases stalled transactions. -/
theorem releaseRange?_of_not_targetsStream {cmd : Command}
    (h : cmd.kind.targetsStream = false) : releaseRange? cmd = none := by
  rw [releaseRange?]
  cases hk : cmd.kind with
  | priResp => rw [hk] at h; cases h
  | resume => rw [hk] at h; cases h
  | _ => rfl

theorem waiting_consume {c d : Controller} (h : d.waiting = c.waiting) :
    d.consume.waiting = c.consume.waiting := by
  show ({ d.waiting with commands := d.waiting.commands.tail } : Waiting) =
    { c.waiting with commands := c.waiting.commands.tail }
  rw [h]

/-- The command in front leaves the queue.  If it releases anything and its stream is configured, the
    stalls in its range leave with it. -/
theorem waiting_runFront {c c' : Controller} {cmd : Command} {report report' : CommandReport}
    (h : c.runFront cmd report = some (c', report')) :
    (releaseRange? cmd = none ∨ c.streams[cmd.stream]? = none) ∧
      c'.waiting = c.consume.waiting ∨
    ∃ range, releaseRange? cmd = some range ∧
      c'.waiting = (c.resume cmd.stream cmd.pasid range).consume.waiting := by
  obtain ⟨hsync, -, rfl⟩ | ⟨-, done, hd, rfl⟩ | ⟨-, e, he, rfl⟩ := runFront_eq_some h
  · have hkind : cmd.kind = .sync := by simpa [Command.isSync] using hsync
    exact Or.inl ⟨Or.inl (releaseRange?_of_not_targetsStream (by rw [hkind]; rfl)), rfl⟩
  · obtain ⟨s, hs, rfl⟩ | ⟨htarget, -, rfl⟩ | ⟨htarget, -, rfl⟩ := execute_eq_ok hd
    · rw [releaseRange?, executeOn]
      cases cmd.kind with
      | priResp => exact Or.inr ⟨_, rfl, rfl⟩
      | resume => exact Or.inr ⟨_, rfl, rfl⟩
      | atcInv => exact Or.inl ⟨Or.inl rfl, waiting_consume (waiting_emit ..)⟩
      | prefetchAddr => exact Or.inl ⟨Or.inl rfl, waiting_consume (waiting_prefetch ..)⟩
      | _ => exact Or.inl ⟨Or.inl rfl, rfl⟩
    · exact Or.inl ⟨Or.inl (releaseRange?_of_not_targetsStream htarget), rfl⟩
    · exact Or.inl ⟨Or.inl (releaseRange?_of_not_targetsStream htarget), rfl⟩
  · exact Or.inl ⟨Or.inr (execute_eq_error he).2, waiting_consume (waiting_failCommand c cmd)⟩

end Controller

end Iommu
