/-
  Streams do not touch each other.

  `Op.subject` is the stream that an operation names, and `ActsOn id` the changes about a stream: an
  operation that names it, or a queued command for it taking its turn.  Whatever the outcome, such a
  change leaves every other stream what it was: its record in the stream table, the shared tables, its
  stalled transactions and its share of the cache (`Untouched`).  There is one exception, and it is in
  the cache, which all streams share: a translation made for the one stream may evict the last entry of
  the other (`Spares`).

  An evicted entry costs a later call on the other stream its hit and not its answer.  The cache is
  coherent for that stream before and after the change, so both calls answer as the tables do, and the
  tables are the same (`streams_isolated`).
-/
import Iommu.Proofs.Cache.Answer
import Iommu.Proofs.Command.Turns
import Iommu.Proofs.Controller.Sized
import Iommu.Proofs.Controller.StreamTable
import Iommu.Proofs.Stall.Waiting
import Iommu.Proofs.Tlb.Shares

namespace Iommu.Controller

/-- The stream that an operation names. -/
def Op.subject : Op → Option StreamId
  | .configure id _ => some id
  | .removeStream id => some id
  | .enable id => some id
  | .disable id => some id
  | .attachTable id _ => some id
  | .attachLog id _ => some id
  | .createPasid id _ => some id
  | .removePasid id _ => some id
  | .clearPasids id => some id
  | .map id _ _ => some id
  | .unmap id _ _ => some id
  | .mapPages id _ _ => some id
  | .unmapPages id _ _ => some id
  | .translate t => some t.stream
  | .submitCommand cmd => some cmd.stream
  | .submitPageRequest r => some r.stream
  | .invalidateStream id => some id
  | .invalidatePasid id _ => some id
  | _ => none

/-- A change about a stream: an operation that names it, or the turn of a queued command for it. -/
inductive ActsOn (id : StreamId) (c : Controller) : Controller → Controller → Prop
  | operation {op : Op} : op.subject = some id → ActsOn id c c (c.step op).1
  | command {turn : Turn} : turn ∈ c.processed → turn.command.kind.targetsStream = true →
      turn.command.stream = id → ActsOn id c turn.before turn.after

/-- The stalled transactions of a stream, oldest first. -/
def stallsOf (c : Controller) (id : StreamId) : List Stall :=
  c.stalls.stalls.filter fun x => x.transaction.stream = id

/-- Nothing of a stream is touched. -/
structure Untouched (other : StreamId) (c c' : Controller) : Prop where
  stream : c'.streams[other]? = c.streams[other]?
  tables : ∀ table, c'.resources.table table = c.resources.table table
  stalls : c'.stallsOf other = c.stallsOf other
  share : c'.tlb.entriesOf other = c.tlb.entriesOf other

/-- Nothing of a stream is touched, but for the last entry of its share of the cache, which may have
    made room for an entry of stream `id`. -/
structure Spares (id other : StreamId) (c c' : Controller) : Prop where
  stream : c'.streams[other]? = c.streams[other]?
  tables : ∀ table, c'.resources.table table = c.resources.table table
  stalls : c'.stallsOf other = c.stallsOf other
  cached : c.tlb.Cedes id other c'.tlb

/-! ## What leaves a stream alone -/

namespace Untouched

variable {c c' c'' : Controller} {id other : StreamId}

/-- Doing nothing touches nothing. -/
theorem refl (c : Controller) : Untouched other c c := ⟨rfl, fun _ => rfl, rfl, rfl⟩

/-- What neither of two changes touches, both together do not. -/
theorem trans (h : Untouched other c c') (h' : Untouched other c' c'') : Untouched other c c'' :=
  ⟨h'.stream.trans h.stream, fun i => (h'.tables i).trans (h.tables i), h'.stalls.trans h.stalls,
    h'.share.trans h.share⟩

/-- What is untouched is spared. -/
theorem spares (h : Untouched other c c') : Spares id other c c' :=
  ⟨h.stream, h.tables, h.stalls, .kept h.share⟩

/-- Events, logs, queues and counters are no part of another stream. -/
theorem of_core (hcore : c'.core = c.core) (hstalls : c'.stalls.stalls = c.stalls.stalls) :
    Untouched other c c' := by
  have htlb : c'.tlb = c.tlb := congrArg Core.tlb hcore
  have hstreams : c'.streams = c.streams := congrArg Core.streams hcore
  have hresources : c'.resources = c.resources := congrArg Core.resources hcore
  refine ⟨by rw [hstreams], fun _ => by rw [hresources], ?_, by rw [htlb]⟩
  rw [stallsOf, stallsOf, hstalls]

/-- Another stream is written. -/
theorem setStream {s : Stream} (hne : s.id ≠ other) : Untouched other c (c.setStream s) := by
  refine ⟨?_, fun _ => rfl, rfl, rfl⟩
  rw [getElem?_setStream, if_neg hne]

/-- Another stream is replaced. -/
theorem replace (hw : c.WellFormed) {s : Stream} (hs : c.streams[id]? = some s)
    (hne : other ≠ id) (s' : Stream) (hid : s'.id = s.id) : Untouched other c (c.setStream s') :=
  setStream fun h => hne (h.symm.trans (hid.trans (hw.keyed id s hs)))

/-- Dropping the entries of one stream leaves those of another. -/
theorem invalidateStream (h : Untouched other c c') (hi : c'.tlb.Indexed) (hne : other ≠ id) :
    Untouched other c (c'.invalidateStream id).1 :=
  h.trans ⟨rfl, fun _ => rfl, rfl, Tlb.entriesOf_invalidateStream hi hne⟩

theorem invalidatePasid (h : Untouched other c c') (hi : c'.tlb.Indexed) (hne : other ≠ id)
    (pasid : Pasid) : Untouched other c (c'.invalidatePasid id pasid).1 :=
  h.trans ⟨rfl, fun _ => rfl, rfl, Tlb.entriesOf_invalidatePasid hi hne pasid⟩

theorem invalidateRange (h : Untouched other c c') (hi : c'.tlb.Indexed) (hne : other ≠ id)
    (pasid : Pasid) (range : PageRange) :
    Untouched other c (c'.invalidateRange id pasid range).1 :=
  h.trans ⟨rfl, fun _ => rfl, rfl, Tlb.entriesOf_invalidateRange hi hne pasid range⟩

/-- Stalls of other streams are released. -/
theorem release {p : Transaction → Bool} (hp : ∀ t, p t = true → t.stream ≠ other)
    (hcore : c'.core = c.core) (hstalls : c'.stalls = (c.stalls.release p).1) :
    Untouched other c c' := by
  have hshare : c'.stallsOf other = c.stallsOf other := by
    rw [stallsOf, stallsOf, hstalls, StallTable.release, List.filter_filter]
    refine List.filter_congr fun x _ => ?_
    -- a stall of the other stream is not released, and any other stall is not in its share
    by_cases hx : x.transaction.stream = other
    · have hpx : p x.transaction = false := by
        rw [← Bool.not_eq_true]
        exact fun h => hp _ h hx
      simp [hpx]
    · simp [hx]
  have hreleased : Untouched other c { c with stalls := c'.stalls } :=
    ⟨rfl, fun _ => rfl, hshare, rfl⟩
  exact hreleased.trans (of_core hcore rfl)

/-- Terminating what waits for one stream leaves what waits for another. -/
theorem terminateStream (h : Untouched other c c') (hne : other ≠ id) :
    Untouched other c (c'.terminateStream id) :=
  h.trans (release (p := fun t => t.stream = id)
    (fun _ ht hs => hne (hs.symm.trans (of_decide_eq_true ht))) rfl rfl)

theorem terminatePasid (h : Untouched other c c') (hne : other ≠ id) (pasid : Pasid) :
    Untouched other c (c'.terminatePasid id pasid) := by
  refine h.trans (release (p := fun t => t.stream = id && t.pasid = pasid) (fun t ht hs => ?_) rfl
    rfl)
  rw [Bool.and_eq_true, decide_eq_true_eq] at ht
  exact hne (hs.symm.trans ht.1)

/-- Releasing what waits for one stream leaves what waits for another. -/
theorem resume (c : Controller) (hne : other ≠ id) (pasid : Pasid) (range : PageRange) :
    Untouched other c (c.resume id pasid range) := by
  refine release (p := StallTable.inRange id pasid range) (fun t h hs => ?_) rfl rfl
  rw [StallTable.inRange, Bool.and_eq_true, Bool.and_eq_true, decide_eq_true_eq] at h
  exact hne (hs.symm.trans h.1.1)

/-- Events are nobody's state. -/
theorem emit (h : Untouched other c c') (e : Event) : Untouched other c (c'.emit e) :=
  h.trans (of_core (core_emit ..) (congrArg Waiting.stalls (waiting_emit ..)))

/-- The log is shared, but it is nobody's state. -/
theorem reportFault (h : Untouched other c c') (t : Transaction) (f : StageFault) :
    Untouched other c (c'.reportFault t f) :=
  h.trans (of_core (core_reportFault ..) (congrArg Waiting.stalls (waiting_reportFault ..)))

/-- Counters are nobody's state. -/
theorem countTranslation (h : Untouched other c c') (b : Bool) :
    Untouched other c (c'.countTranslation b) :=
  h.trans (of_core (core_countTranslation ..) (congrArg Waiting.stalls (waiting_countTranslation ..)))

/-- Another stream's transaction is stalled. -/
theorem stall (h : Untouched other c c') {t : Transaction} (hne : other ≠ t.stream) :
    Untouched other c (c'.stall t) := by
  have hadded : (c'.stalls.stalls ++ [(⟨t, c'.stamp⟩ : Stall)]).filter
      (fun x => x.transaction.stream = other) = c'.stallsOf other := by
    rw [List.filter_append, List.filter_cons_of_neg (by simpa using hne.symm), List.filter_nil,
      List.append_nil]
    rfl
  unfold Controller.stall
  dsimp only
  split
  · exact h.trans (of_core rfl rfl)
  · refine emit (h.trans ?_) _
    exact ⟨rfl, fun _ => rfl, hadded, rfl⟩

/-- A lookup for one stream may drop an entry of this stream only. -/
theorem lookupCache {t : Transaction} (hne : other ≠ t.stream) :
    Untouched other c (c.lookupCache t).1 := by
  unfold Controller.lookupCache
  split
  · exact ⟨rfl, fun _ => rfl, rfl, Tlb.entriesOf_lookup hne _⟩
  · exact refl c

/-- A fault is recorded with another stream. -/
theorem missed {s : Stream} (hne : s.id ≠ other) (t : Transaction) (f : StageFault) :
    Untouched other c (c.missed s t f) := by
  have hset : Untouched other c
      (c.setStream ((s.countTranslation false).recordFault c.resources c.clock t f).1) :=
    setStream hne
  exact ⟨hset.stream, fun _ => Resources.table_record .., rfl, rfl⟩

/-- An operation that names another stream and translates nothing. -/
theorem step {op : Op} (hw : c.WellFormed) (hop : op.subject = some id) (hne : other ≠ id)
    (htranslate : ∀ t, op ≠ .translate t) : Untouched other c (c.step op).1 := by
  have hsettle : ∀ r : Except Error Controller, (∀ c', r = .ok c' → Untouched other c c') →
      Untouched other c (c.settle r).1 := fun _ h => settle_preserves (.refl c) h
  have hflag : ∀ r : Except Error (Controller × Bool),
      (∀ c' b, r = .ok (c', b) → Untouched other c c') →
      Untouched other c (c.settleFlag r).1 := fun _ h => settleFlag_preserves (.refl c) h
  have hi := hw.indexed
  cases op with
  | configure i config =>
    obtain rfl : i = id := Option.some.inj hop
    refine hsettle _ fun c' hc => ?_
    obtain ⟨s, hs, -, rfl⟩ | ⟨-, -, s, hs, rfl⟩ := configure_eq_ok hc
    · exact (replace hw hs hne { s with config } rfl).invalidateStream hi hne
    · exact setStream fun h => hne (h.symm.trans (Stream.create_eq_ok hs).2.1)
  | removeStream i =>
    obtain rfl : i = id := Option.some.inj hop
    refine hsettle _ fun c' hc => ?_
    obtain ⟨s, -, rfl⟩ := removeStream_eq_ok hc
    have herased : Untouched other c { c with streams := c.streams.erase i } := by
      refine ⟨?_, fun _ => rfl, rfl, rfl⟩
      rw [Std.ExtTreeMap.getElem?_erase, if_neg (by simpa using hne.symm)]
    exact (herased.invalidateStream hi hne).terminateStream hne
  | enable i =>
    obtain rfl : i = id := Option.some.inj hop
    refine hsettle _ fun c' hc => ?_
    obtain ⟨s, hs, rfl⟩ := enable_eq_ok hc
    exact replace hw hs hne (s.setEnabled true) rfl
  | disable i =>
    obtain rfl : i = id := Option.some.inj hop
    refine hsettle _ fun c' hc => ?_
    obtain ⟨s, hs, rfl⟩ := disable_eq_ok hc
    exact (replace hw hs hne (s.setEnabled false) rfl).invalidateStream hi hne
  | attachTable i table =>
    obtain rfl : i = id := Option.some.inj hop
    refine hsettle _ fun c' hc => ?_
    obtain ⟨s, hs, rfl⟩ := attachTable_eq_ok hc
    exact (replace hw hs hne (s.attachTable table) rfl).invalidateStream hi hne
  | attachLog i log =>
    obtain rfl : i = id := Option.some.inj hop
    refine hsettle _ fun c' hc => ?_
    obtain ⟨s, hs, rfl⟩ := attachLog_eq_ok hc
    exact replace hw hs hne (s.attachLog log) rfl
  | createPasid i pasid =>
    obtain rfl : i = id := Option.some.inj hop
    refine hsettle _ fun c' hc => ?_
    obtain ⟨s, s', hs, hp, rfl⟩ := createPasid_eq_ok hc
    exact replace hw hs hne s' (Stream.Edit.pasidCreated hp).id
  | removePasid i pasid =>
    obtain rfl : i = id := Option.some.inj hop
    refine hsettle _ fun c' hc => ?_
    obtain ⟨s, hs, rfl⟩ := removePasid_eq_ok hc
    have hset := replace hw hs hne { s with pasids := s.pasids.erase pasid } rfl
    exact (hset.invalidatePasid hi hne pasid).terminatePasid hne pasid
  | clearPasids i =>
    obtain rfl : i = id := Option.some.inj hop
    refine hsettle _ fun c' hc => ?_
    obtain ⟨s, hs, rfl⟩ := clearPasids_eq_ok hc
    have hset := replace hw hs hne s.clearPasids rfl
    exact (hset.invalidateStream hi hne).terminateStream hne
  | map i pasid m =>
    obtain rfl : i = id := Option.some.inj hop
    refine hsettle _ fun c' hc => ?_
    obtain ⟨s, t, hs, -, -, rfl⟩ := map_eq_ok hc
    exact (replace hw hs hne (s.setPasidTable pasid _) rfl).invalidateRange hi hne pasid _
  | unmap i pasid a =>
    obtain rfl : i = id := Option.some.inj hop
    refine hflag _ fun c' b hc => ?_
    obtain ⟨s, t, hs, -, rfl⟩ := unmap_eq_ok hc
    exact (replace hw hs hne (s.setPasidTable pasid _) rfl).invalidateRange hi hne pasid _
  | mapPages i pasid ms =>
    obtain rfl : i = id := Option.some.inj hop
    refine hsettle _ fun c' hc => ?_
    obtain ⟨s, t, hs, -, -, rfl⟩ := mapPages_eq_ok hc
    exact (replace hw hs hne (s.setPasidTable pasid _) rfl).invalidatePasid hi hne pasid
  | unmapPages i pasid as =>
    obtain rfl : i = id := Option.some.inj hop
    refine hsettle _ fun c' hc => ?_
    obtain ⟨s, t, hs, -, rfl⟩ := unmapPages_eq_ok hc
    exact (replace hw hs hne (s.setPasidTable pasid _) rfl).invalidatePasid hi hne pasid
  | translate t => exact absurd rfl (htranslate t)
  | submitCommand cmd => exact of_core (core_submitCommand c cmd) rfl
  | submitPageRequest r =>
    refine of_core (core_submitPageRequest c r) ?_
    show (c.submitPageRequest r).1.stalls.stalls = _
    rw [submitPageRequest_eq]
  | invalidateStream i =>
    obtain rfl : i = id := Option.some.inj hop
    exact (refl c).invalidateStream hi hne
  | invalidatePasid i pasid =>
    obtain rfl : i = id := Option.some.inj hop
    exact (refl c).invalidatePasid hi hne pasid
  | _ => cases hop

end Untouched

/-! ## Translations and commands -/

/-- Remembering a walk cedes at most one entry. -/
theorem cedes_remember {c : Controller} {n : Nat} (h : c.tlb.Holds n) {other : StreamId}
    {t : Transaction} (hne : other ≠ t.stream) (r : Translation) (epoch : Nat) :
    c.tlb.Cedes t.stream other (c.remember t r epoch).tlb := by
  unfold remember
  split
  · exact Tlb.cedes_insertIfCurrent (e := .ofTranslation t.stream t.pasid t.address r) h hne _ _
  · exact .kept rfl

/-- So does remembering it after its page was looked up. -/
theorem cedes_answered {c : Controller} {n : Nat} (h : c.tlb.Holds n) {other : StreamId}
    {t : Transaction} (hne : other ≠ t.stream) {s : Stream} {r : Translation}
    (hr : s.walk c.resources t = .ok r) (s' : Stream) (epoch : Nat) :
    c.tlb.Cedes t.stream other (((c.lookupCache t).1.setStream s').remember t r epoch).tlb := by
  have hkey : (TlbEntry.ofTranslation t.stream t.pasid t.address r).key =
      .ofAddress t.stream t.pasid t.address t.security := by
    rw [TlbEntry.key_ofTranslation, (Stream.security_of_walk hr).1]
  have hconfig : ((c.lookupCache t).1.setStream s').config = c.config := config_lookupCache c t
  have hinserted := Tlb.cedes_lookup_insert (e := .ofTranslation t.stream t.pasid t.address r) h hne
    c.clock epoch
  rw [hkey] at hinserted
  unfold remember
  rw [hconfig]
  split
  · rename_i hon
    rw [Bool.and_eq_true] at hon
    unfold lookupCache
    rw [if_pos hon.1]
    exact hinserted
  · exact .kept (Untouched.lookupCache hne).share

/-- A call to translate spares every other stream, whatever it answers. -/
theorem spares_translate {c : Controller} (hw : c.WellFormed) {n : Nat} (h : c.tlb.Holds n)
    {other : StreamId} {t : Transaction} (hne : other ≠ t.stream) :
    Spares t.stream other c (c.translate t).1 := by
  have hlooked : Untouched other c (c.lookupCache t).1 := .lookupCache hne
  have hid : ∀ s : Stream, c.streams[t.stream]? = some s → s.id ≠ other := fun s hs heq =>
    hne (heq.symm.trans (hw.keyed t.stream s hs))
  refine translate_cases (P := fun x => Spares t.stream other c x.1) ?_ ?_ ?_ ?_ ?_
  · intro _
    exact (((Untouched.refl c).reportFault t _).countTranslation false).spares
  · intro s e hs _
    have hset : Untouched other c ((c.lookupCache t).1.setStream (s.countTranslation true)) :=
      hlooked.trans (.setStream (hid s hs))
    exact (hset.countTranslation true).spares
  · intro s r epoch hs hr
    have hset : Untouched other c ((c.lookupCache t).1.setStream (s.countTranslation true)) :=
      hlooked.trans (.setStream (hid s hs))
    rw [remember_eq]
    exact ⟨hset.stream, hset.tables, hset.stalls, cedes_answered h hne hr _ epoch⟩
  · intro s f hs _ _
    have hmissed := hlooked.trans (.missed (hid s hs) t f)
    exact ((hmissed.reportFault t f).countTranslation false).spares
  · intro s f hs _ _ _
    have hmissed := hlooked.trans (.missed (hid s hs) t f)
    exact (((hmissed.reportFault t f).stall hne).countTranslation false).spares

/-- An operation spares every stream but the one it names. -/
theorem spares_step {c : Controller} (hw : c.WellFormed) {n : Nat} (h : c.tlb.Holds n)
    {id other : StreamId} {op : Op} (hop : op.subject = some id) (hne : other ≠ id) :
    Spares id other c (c.step op).1 := by
  by_cases htranslate : ∃ t, op = .translate t
  · obtain ⟨t, rfl⟩ := htranslate
    obtain rfl : t.stream = id := Option.some.inj hop
    exact spares_translate hw h hne
  · exact (Untouched.step hw hop hne fun t ht => htranslate ⟨t, ht⟩).spares

/-- A command for one stream spares every other: it may only push entries out of a full cache. -/
theorem spares_executeOn {c : Controller} (hw : c.WellFormed) {n : Nat} (h : c.tlb.Holds n)
    {other : StreamId} (s : Stream) {cmd : Command} (hne : other ≠ cmd.stream) :
    Spares cmd.stream other c (c.executeOn s cmd) := by
  have hrange : Untouched other c (c.invalidateRange cmd.stream cmd.pasid cmd.range).1 :=
    (Untouched.refl c).invalidateRange hw.indexed hne cmd.pasid cmd.range
  have hstream : Untouched other c (c.invalidateStream cmd.stream).1 :=
    (Untouched.refl c).invalidateStream hw.indexed hne
  unfold executeOn
  cases cmd.kind with
  | tlbiS12Vmall => exact hstream.spares
  | cfgiSte => exact hstream.spares
  | tlbiNhAsid => exact ((Untouched.refl c).invalidatePasid hw.indexed hne cmd.pasid).spares
  | tlbiNhVa => exact hrange.spares
  | atcInv => exact (hrange.emit _).spares
  | priResp =>
    have hresumed := Untouched.resume c hne cmd.pasid (.ofPage cmd.start)
    exact Untouched.spares (hresumed.trans (.of_core rfl rfl))
  | resume => exact (Untouched.resume c hne ..).spares
  | prefetchAddr =>
    dsimp only [prefetch]
    split
    · split
      · rw [remember_eq]
        exact ⟨rfl, fun _ => rfl, rfl, cedes_remember h (t := ⟨cmd.stream, _, _, _, _⟩) hne _ _⟩
      · exact (Untouched.refl c).spares
    · exact (Untouched.refl c).spares
  | _ => exact (Untouched.refl c).spares

/-- A command for one stream spares every other, whether it can be carried out or fails. -/
theorem spares_runFront {c c' : Controller} (hw : c.WellFormed) {n : Nat} (h : c.tlb.Holds n)
    {other : StreamId} {cmd : Command} {report report' : CommandReport}
    (htarget : cmd.kind.targetsStream = true) (hne : other ≠ cmd.stream)
    (hf : c.runFront cmd report = some (c', report')) : Spares cmd.stream other c c' := by
  obtain ⟨hsync, -, -⟩ | ⟨-, done, hd, rfl⟩ | ⟨-, e, -, rfl⟩ := runFront_eq_some hf
  · have hkind : cmd.kind = .sync := by simpa [Command.isSync] using hsync
    rw [hkind] at htarget
    cases htarget
  · obtain ⟨s, -, rfl⟩ | ⟨hother, -⟩ | ⟨hother, -⟩ := execute_eq_ok hd
    · obtain ⟨hstream, htables, hstalls, hcached⟩ := spares_executeOn hw h s hne
      exact ⟨hstream, htables, hstalls, hcached⟩
    · rw [htarget] at hother
      cases hother
    · rw [htarget] at hother
      cases hother
  · refine (Untouched.of_core ((core_consume _).trans (core_failCommand ..)) ?_).spares
    exact congrArg Waiting.stalls (waiting_failCommand c cmd)

/-! ## Isolation -/

/-- A state that a run passes through, with the streams for which its cache need not be coherent. -/
structure Sound (stale : StreamId → Bool) (c : Controller) : Prop where
  wellFormed : c.WellFormed
  holds : c.tlb.Holds c.config.cache.size.toNat
  coherent : c.Coherent stale

/-- The state after a run that rewrites no table attached to a stream outside `stale`. -/
theorem sound_run {config : Configuration} {c : Controller} (h : create config = .ok c)
    (ops : List Op) {stale : StreamId → Bool}
    (hrewrites : ∀ n op, ops[n]? = some op → ∀ id, stale id = false →
      (c.run (ops.take n)).1.rewrites op id = false) : (c.run ops).1.Sound stale := by
  have hw := wellFormed_of_create h
  have hstart : c.Coherent stale := by
    obtain ⟨-, rfl⟩ := create_eq_ok h
    exact .of_empty rfl
  have hstep : ∀ n op, ops[n]? = some op → (c.run (ops.take n)).1.Coherent stale →
      ((c.run (ops.take n)).1.step op).1.Coherent stale := by
    intro n op hop hc
    refine (hc.step_rewrites (hw.run _) op).mono fun id hid => ?_
    exact Bool.or_eq_false_iff.2 ⟨hid, hrewrites n op hop id hid⟩
  have hcoherent : (c.run (ops.take ops.length)).1.Coherent stale :=
    run_take_preserves hstart hstep ops.length
  rw [List.take_length] at hcoherent
  exact ⟨hw.run ops, (sized_run h ops).cached, hcoherent⟩

/-- What is cached stays right, whatever the command in front does. -/
theorem Sound.runFront {stale : StreamId → Bool} {c c' : Controller} (h : c.Sound stale)
    {cmd : Command} {report report' : CommandReport}
    (hf : c.runFront cmd report = some (c', report')) : c'.Sound stale where
  wellFormed := h.wellFormed.runFront hf
  holds := by
    have hop : ∀ new found, Op.processCommands ≠ .updateConfiguration new found :=
      fun _ _ h => by cases h
    rw [config_runFront hf]
    exact h.holds.changed (changed_runFront hf) fun _ => resizes_of_performs hop
  coherent := (kept_coherent stale).runFront h.wellFormed h.coherent hf

namespace ActsOn

variable {stale : StreamId → Bool} {id other : StreamId} {c before after : Controller}

/-- The state in which the change is made. -/
theorem sound (hacts : ActsOn id c before after) (h : c.Sound stale) : before.Sound stale := by
  cases hacts with
  | operation _ => exact h
  | command hturn _ _ =>
    obtain ⟨d, hlinked, -⟩ := linked_turns c.commands.entries c .none rfl rfl
    exact hlinked.keeps (fun _ _ _ _ _ hf hc => hc.runFront hf) h _ hturn

/-- The other streams are spared by the change. -/
theorem spares (hacts : ActsOn id c before after) (h : before.Sound stale) (hne : other ≠ id) :
    Spares id other before after := by
  cases hacts with
  | operation hop => exact spares_step h.wellFormed h.holds hop hne
  | command hturn htarget hid =>
    subst hid
    obtain ⟨d, hlinked, -⟩ := linked_turns c.commands.entries c .none rfl rfl
    obtain ⟨_, _, hf⟩ := hlinked.ran _ hturn
    exact spares_runFront h.wellFormed h.holds htarget hne hf

/-- The change keeps the cache coherent. -/
theorem coherent (hacts : ActsOn id c before after) (h : before.Sound stale) :
    after.Coherent stale := by
  cases hacts with
  | @operation op hop =>
    have hnone : ∀ j, c.rewrites op j = false := by
      intro j
      cases op with
      | editTable table change => cases hop
      | _ => rfl
    refine (h.coherent.step_rewrites h.wellFormed op).mono fun j hj => ?_
    rw [hj, hnone, Bool.or_false]
  | command hturn _ _ =>
    obtain ⟨d, hlinked, -⟩ := linked_turns c.commands.entries c .none rfl rfl
    obtain ⟨_, _, hf⟩ := hlinked.ran _ hturn
    exact (h.runFront hf).coherent

end ActsOn

/-- In every reachable state, a change about one stream, whatever comes of it, leaves the record, the
    tables and the stalled transactions of every other stream as they are, and its share of the cache
    but for an entry evicted for a new one.  Where no table attached to the other stream was rewritten
    behind it, a call for that stream is answered after the change as it would have been before, up to
    the cache-hit flag. -/
theorem streams_isolated {config : Configuration} {c : Controller} (h : create config = .ok c)
    (ops : List Op) {id other : StreamId} (hne : other ≠ id) {before after : Controller}
    (hacts : ActsOn id (c.run ops).1 before after) :
    Spares id other before after ∧
      ((∀ n op, ops[n]? = some op → (c.run (ops.take n)).1.rewrites op other = false) →
        ∀ t : Transaction, t.stream = other →
          masked (after.translate t).2 = masked (before.translate t).2) := by
  -- what is spared does not depend on coherence, so here any stream may be stale
  have hany : before.Sound fun _ => true := hacts.sound (sound_run h ops nofun)
  have hspares := hacts.spares hany hne
  refine ⟨hspares, fun hrewrites t ht => ?_⟩
  -- only the other stream has to be fresh for its calls to be answered by the tables
  have hsound : before.Sound (· != other) := hacts.sound <| sound_run h ops fun n op hop j hj => by
    rw [bne_eq_false_iff_eq.1 hj]
    exact hrewrites n op hop
  have hfresh : (t.stream != other) = false := bne_eq_false_iff_eq.2 ht
  have hanswer : after.answer t = before.answer t :=
    answer_eq (by rw [ht]; exact hspares.stream) hspares.tables
  calc masked (after.translate t).2
      = after.answer t := (hacts.coherent hsound).masked_translate hfresh
    _ = before.answer t := hanswer
    _ = masked (before.translate t).2 := (hsound.coherent.masked_translate hfresh).symm

/-- With room for one entry only, a translation for stream 2 evicts what was cached for stream 1, which
    stream 1 then translates as before. -/
theorem streams_isolated_evicted :
    let config : Configuration := { cache := { size := 1 } }
    let c := start config [] [] .empty 0
    let t : Transaction := ⟨1, 0, 0x1234, .read, .nonSecure⟩
    let ops : List Op := [.configure 1 {}, .createPasid 1 0,
      .map 1 0 ⟨0x1000, 0x8000, .full, .nonSecure⟩, .configure 2 {}, .createPasid 2 0,
      .map 2 0 ⟨0x1000, 0x9000, .full, .nonSecure⟩, .translate t]
    let op : Op := .translate { t with stream := 2 }
    create config = .ok c ∧ op.subject = some 2 ∧
      ((c.run ops).1.tlb.entriesOf 1).length = 1 ∧
      (((c.run ops).1.step op).1.tlb.entriesOf 1).length = 0 ∧
      Spares 2 1 (c.run ops).1 ((c.run ops).1.step op).1 ∧
      masked (((c.run ops).1.step op).1.translate t).2 = masked ((c.run ops).1.translate t).2 := by
  intro config c t ops op
  have hc : create config = .ok c := rfl
  have hacts : ActsOn 2 (c.run ops).1 (c.run ops).1 ((c.run ops).1.step op).1 := .operation rfl
  have hrewrites : ∀ n op, ops[n]? = some op →
      (c.run (ops.take n)).1.rewrites op 1 = false := by
    intro n op hop
    cases op with
    | editTable table change => exact absurd (List.mem_of_getElem? hop) (by simp [ops])
    | _ => rfl
  obtain ⟨hspares, hanswer⟩ := streams_isolated hc ops (show (1 : StreamId) ≠ 2 by decide) hacts
  exact ⟨hc, rfl, by decide +kernel, by decide +kernel, hspares, hanswer hrewrites t rfl⟩

end Iommu.Controller
