/-
  What is cached is what a walk would find.

  `Answers c e` says that an entry answers every transaction of its page, for every access it grants,
  exactly as a walk of the tables would.  `Coherent c stale` says that every cached entry does, those of
  the streams in `stale` apart.

  Three things keep an entry's answer: the stream's part of the tables that the entry stands for is kept
  (`WalksKept`), the entry leaves the cache, or the entry was made just now (`answers_ofTranslation`,
  which is where one walk has to speak for a whole page).  Every operation is one of these, except a
  change to a shared table made behind the streams it is attached to.  That one makes those streams
  stale; a stream is fresh again once the cache holds nothing of it (`staleAfter`).
-/
import Iommu.Proofs.Controller.Kept

namespace Iommu.Controller

/-- An entry answers every transaction it stands for as a walk of the tables would. -/
def Answers (c : Controller) (e : TlbEntry) : Prop :=
  ∃ s : Stream, c.streams[e.stream]? = some s ∧ ∀ t : Transaction,
    TlbKey.ofAddress t.stream t.pasid t.address t.security = e.key →
    e.permissions.allows t.access = true →
    s.walk c.resources t = .ok { e.toTranslation t.address with cacheHit := false }

/-- Every cached entry of a stream outside `stale` answers as a walk would. -/
def Coherent (stale : StreamId → Bool) (c : Controller) : Prop :=
  ∀ e ∈ c.tlb.entries, stale e.stream = false → c.Answers e

/-! ## Staleness -/

/-- Whether an operation changes the table attached to a stream through the table itself. -/
def rewrites (c : Controller) (op : Op) (id : StreamId) : Bool :=
  match op, c.streams[id]? with
  | .editTable table change, some s =>
    s.table = some table && (c.resources.table table).edit change ≠ c.resources.table table
  | _, _ => false

/-- Whether the cache holds anything of a stream. -/
def caches (c : Controller) (id : StreamId) : Bool := c.tlb.entries.any fun e => e.stream = id

/-- The streams of `stale` of which the cache still holds something. -/
def stillCached (c : Controller) (stale : StreamId → Bool) : StreamId → Bool :=
  fun id => stale id && c.caches id

/-- The stale streams after queued commands, which take effect one by one. -/
def staleCommands (c : Controller) (stale : StreamId → Bool) (report : CommandReport) :
    List Command → StreamId → Bool
  | [] => stale
  | cmd :: rest =>
    match c.runFront cmd report with
    | some (c, report) => c.staleCommands (c.stillCached stale) report rest
    | none => stale

/-- The stale streams after an operation. -/
def staleAfter (c : Controller) (stale : StreamId → Bool) (op : Op) : StreamId → Bool :=
  match op with
  | .processCommands => c.staleCommands stale .none c.commands.entries
  | op => (c.step op).1.stillCached fun id => stale id || c.rewrites op id

/-! ## Keeping an answer -/

/-- The walks that an entry stands for are kept from one state to another. -/
def WalksKept (c c' : Controller) (e : TlbEntry) : Prop :=
  ∀ s : Stream, c.streams[e.stream]? = some s → ∃ s' : Stream, c'.streams[e.stream]? = some s' ∧
    s.Keeps s' e.pasid e.page ∧
    ∀ id, s.table = some id → c'.resources.table id = c.resources.table id

/-- An entry that gave the answer of a walk gives it as long as the walk does. -/
theorem Answers.keep {c c' : Controller} {e : TlbEntry} (h : c.Answers e) (hk : WalksKept c c' e) :
    c'.Answers e := by
  obtain ⟨s, hs, hans⟩ := h
  obtain ⟨s', hs', hkeeps, hres⟩ := hk s hs
  refine ⟨s', hs', fun t hkey ha => ?_⟩
  have hpasid : t.pasid = e.pasid := congrArg TlbKey.pasid hkey
  have hpage : pageBase t.address = pageBase e.page := congrArg TlbKey.page hkey
  rw [← hpasid] at hkeeps
  exact hkeeps.walk hres hpage (hans t hkey ha)

/-- Walks read streams and shared tables only. -/
theorem WalksKept.of_eq {c c' : Controller} {e : TlbEntry} (hs : c'.streams = c.streams)
    (hr : c'.resources = c.resources) : WalksKept c c' e := by
  intro s h
  exact ⟨s, hs ▸ h, Stream.Keeps.refl s e.pasid e.page, fun id _ => by rw [hr]⟩

/-- A stream replaced by another: the entries of other streams are not concerned, and its own are
    kept if their walks are. -/
theorem WalksKept.setStream {c c' : Controller} {id : StreamId} {s : Stream} {e : TlbEntry}
    (hs : c.streams[id]? = some s) (s' : Stream) (hid : s'.id = id)
    (hstreams : c'.streams = (c.setStream s').streams) (hr : c'.resources = c.resources)
    (hk : e.stream = id → s.Keeps s' e.pasid e.page) : WalksKept c c' e := by
  intro s₀ h
  by_cases he : e.stream = id
  · subst he
    obtain rfl : s = s₀ := Option.some.inj (hs.symm.trans h)
    refine ⟨s', ?_, hk rfl, fun id _ => by rw [hr]⟩
    rw [hstreams, getElem?_setStream, if_pos hid]
  · refine ⟨s₀, ?_, Stream.Keeps.refl s₀ e.pasid e.page, fun id _ => by rw [hr]⟩
    rw [hstreams, getElem?_setStream, if_neg (fun h => he (h.symm.trans hid)), h]

/-- Streams changed all alike, each so that its walks are kept. -/
theorem WalksKept.mapStreams {c c' : Controller} {f : Stream → Stream} {e : TlbEntry}
    (hstreams : c'.streams = (c.mapStreams f).streams) (hr : c'.resources = c.resources)
    (hk : ∀ s, c.streams[e.stream]? = some s → s.Keeps (f s) e.pasid e.page) :
    WalksKept c c' e := by
  intro s hs
  refine ⟨f s, ?_, hk s hs, fun id _ => by rw [hr]⟩
  rw [hstreams, getElem?_mapStreams, hs, Option.map_some]

namespace Coherent

variable {c c' : Controller} {stale stale' : StreamId → Bool}

/-- A coherent cache stays coherent when no entry is new and what is left is kept. -/
theorem keep (h : c.Coherent stale)
    (hk : ∀ e ∈ c'.tlb.entries, stale' e.stream = false →
      e ∈ c.tlb.entries ∧ stale e.stream = false ∧ WalksKept c c' e) : c'.Coherent stale' := by
  intro e he hfresh
  obtain ⟨hmem, hfresh', hkept⟩ := hk e he hfresh
  exact (h e hmem hfresh').keep hkept

/-- Coherence is a property of the core. -/
theorem congr (h : c.Coherent stale) (hcore : c'.core = c.core) : c'.Coherent stale := by
  have htlb : c'.tlb = c.tlb := congrArg Core.tlb hcore
  refine h.keep fun e he hfresh => ⟨htlb ▸ he, hfresh, ?_⟩
  exact .of_eq (congrArg Core.streams hcore) (congrArg Core.resources hcore)

/-- Entries only leave. -/
theorem shrink (h : c.Coherent stale) (hs : c'.streams = c.streams)
    (hr : c'.resources = c.resources) (hsub : ∀ e ∈ c'.tlb.entries, e ∈ c.tlb.entries) :
    c'.Coherent stale :=
  h.keep fun e he hfresh => ⟨hsub e he, hfresh, .of_eq hs hr⟩

/-- More streams may be stale. -/
theorem mono (h : c.Coherent stale) (hle : ∀ id, stale' id = false → stale id = false) :
    c.Coherent stale' :=
  fun e he hfresh => h e he (hle e.stream hfresh)

/-- An empty cache answers nothing, and so nothing wrong. -/
theorem of_empty (he : c.tlb.entries = []) : c.Coherent stale := by
  intro e hmem
  rw [he] at hmem
  cases hmem

/-- A stream of which nothing is cached is stale no more. -/
theorem stillCached (h : c.Coherent stale) : c.Coherent (c.stillCached stale) := by
  intro e he hfresh
  have hcaches : c.caches e.stream = true := by
    rw [caches, List.any_eq_true]
    exact ⟨e, he, decide_eq_true rfl⟩
  refine h e he ?_
  simpa [Controller.stillCached, hcaches] using hfresh

/-- One stream is replaced, with what the cache loses by it. -/
theorem setStream (h : c.Coherent stale) {id : StreamId} {s : Stream}
    (hs : c.streams[id]? = some s) (s' : Stream) (hid : s'.id = id)
    (hstreams : c'.streams = (c.setStream s').streams) (hr : c'.resources = c.resources)
    (hk : ∀ e ∈ c'.tlb.entries, e ∈ c.tlb.entries ∧ (e.stream = id → s.Keeps s' e.pasid e.page)) :
    c'.Coherent stale :=
  h.keep fun e he hfresh =>
    ⟨(hk e he).1, hfresh, .setStream hs s' hid hstreams hr (hk e he).2⟩

/-- One stream is replaced and everything of it leaves the cache, so it may be any stream. -/
theorem invalidateStream (h : c.Coherent stale) (hw : c.WellFormed) {id : StreamId} {s s' : Stream}
    (hs : c.streams[id]? = some s) (hid : s'.id = id) :
    ((c.setStream s').invalidateStream id).1.Coherent stale := by
  refine h.setStream hs s' hid rfl rfl fun e he => ?_
  obtain ⟨hmem, hne⟩ := (Tlb.mem_invalidateStream hw.indexed).1 he
  exact ⟨hmem, fun heq => absurd heq hne⟩

/-- One PASID is changed and everything of it leaves the cache. -/
theorem invalidatePasid (h : c.Coherent stale) (hw : c.WellFormed) {id : StreamId} {pasid : Pasid}
    {s s' : Stream} (hs : c.streams[id]? = some s) (hid : s'.id = id)
    (hk : ∀ p page, p ≠ pasid → s.Keeps s' p page) :
    ((c.setStream s').invalidatePasid id pasid).1.Coherent stale := by
  refine h.setStream hs s' hid rfl rfl fun e he => ?_
  obtain ⟨hmem, hne⟩ := (Tlb.mem_invalidatePasid hw.indexed).1 he
  exact ⟨hmem, fun heq => hk e.pasid e.page fun hp => hne ⟨heq, hp⟩⟩

/-- One page is changed and its entry leaves the cache. -/
theorem invalidatePage (h : c.Coherent stale) (hw : c.WellFormed) {id : StreamId} {pasid : Pasid}
    {a : UInt64} {s : Stream} {t t' : PageTable} (hs : c.streams[id]? = some s)
    (ht : s.pasids[pasid]? = some t)
    (hk : ∀ b, pageBase b ≠ pageBase a → t'.lookup b = t.lookup b) :
    ((c.setStream (s.setPasidTable pasid t')).invalidateRange id pasid (.single a)).1.Coherent
      stale := by
  refine h.setStream hs (s.setPasidTable pasid t') (hw.keyed id s hs) rfl rfl fun e he => ?_
  obtain ⟨hmem, hne⟩ := (Tlb.mem_invalidateRange hw.indexed).1 he
  refine ⟨hmem, fun heq => .setPasidTable ht fun hp => hk e.page fun hpage => ?_⟩
  exact hne ⟨heq, hp, by rw [PageRange.single_selects, hpage, beq_self_eq_true]⟩

/-- One stream is replaced by another that keeps every walk. -/
theorem replace (h : c.Coherent stale) {id : StreamId} {s : Stream}
    (hs : c.streams[id]? = some s) (s' : Stream) (hid : s'.id = id)
    (hk : ∀ pasid page, s.Keeps s' pasid page) : (c.setStream s').Coherent stale :=
  h.setStream hs s' hid rfl rfl fun e he => ⟨he, fun _ => hk e.pasid e.page⟩

end Coherent

/-! ## Making an entry -/

/-- The entry that remembers a walk answers its page as a walk does. -/
theorem answers_ofTranslation {c : Controller} (hw : c.WellFormed) {s : Stream} {t : Transaction}
    {r : Translation} (hs : c.streams[t.stream]? = some s) (h : s.walk c.resources t = .ok r)
    (hb : r.bypassed = false) (now : Nat) :
    c.Answers { TlbEntry.ofTranslation t.stream t.pasid t.address r with timestamp := now } := by
  have hbits : 12 ≤ s.limits.inputBits.toNat := by
    have hv := hw.config.inputBits.1
    rw [hw.limits t.stream s hs]
    exact Nat.le_trans (by decide) hv
  obtain ⟨hsec, hhit⟩ := Stream.security_of_walk h
  refine ⟨s, hs, fun t' hkey ha => ?_⟩
  have hpasid : t'.pasid = t.pasid := congrArg TlbKey.pasid hkey
  have hpage : pageBase t'.address = pageBase (pageBase t.address) := congrArg TlbKey.page hkey
  have hsec' : t'.security = r.security := congrArg TlbKey.security hkey
  rw [Stream.walk_page hbits h hb hpasid (hpage.trans (pageBase_pageBase _)) (hsec'.trans hsec) ha,
    Translation.atAddress_eq hb hhit t.stream t.pasid t.address t'.address]
  rfl

/-! ## Translation and commands -/

/-- A fault recorded with a stream keeps every walk: the record goes to a log, so the shared tables are
    those they were. -/
theorem walksKept_missed {c : Controller} (hw : c.WellFormed) {s : Stream} {id : StreamId}
    (hs : c.streams[id]? = some s) (t : Transaction) (f : StageFault) (e : TlbEntry) :
    WalksKept c (c.missed s t f) e := by
  intro s₀ hs₀
  have hset : WalksKept c (c.setStream ((s.countTranslation false).recordFault c.resources c.clock
      t f).1) e :=
    .setStream hs ((s.countTranslation false).recordFault c.resources c.clock t f).1
      (hw.keyed id s hs) rfl rfl fun _ => .of_eq rfl rfl (fun he => he) rfl rfl rfl
  obtain ⟨s', hs', hkeeps, -⟩ := hset s₀ hs₀
  exact ⟨s', hs', hkeeps, fun id _ => Resources.table_record ..⟩

/-- Calls to translate and commands keep the answers of the cached entries, whichever are chosen. -/
theorem kept_answering (chosen : TlbEntry → Prop) :
    Kept fun c => ∀ e ∈ c.tlb.entries, chosen e → c.Answers e where
  congr {c c'} h hcore e he hc := by
    have htlb : c'.tlb = c.tlb := congrArg Core.tlb hcore
    refine (h e (htlb ▸ he) hc).keep ?_
    exact .of_eq (congrArg Core.streams hcore) (congrArg Core.resources hcore)
  drop _ h hsub e he hc := (h e (hsub e he) hc).keep (.of_eq rfl rfl)
  answered {_ id s} hw h hs e he hc := (h e he hc).keep <|
    .setStream hs (s.countTranslation true) (hw.keyed id s hs) rfl rfl fun _ =>
      .of_eq rfl rfl (fun he => he) rfl rfl rfl
  missed hw h hs t f e he hc := (h e he hc).keep (walksKept_missed hw hs t f e)
  remembered {c s t r} hw h hs hr epoch e he hc := by
    have hans : c.Answers e := by
      rcases mem_remember he with hmem | ⟨hb, rfl⟩
      · exact h e hmem hc
      · exact answers_ofTranslation hw hs hr hb c.clock
    exact hans.keep (.of_eq (streams_remember ..) (resources_remember ..))

/-- Calls to translate and commands keep the cache coherent. -/
theorem kept_coherent (stale : StreamId → Bool) : Kept (Coherent stale) :=
  kept_answering fun e => stale e.stream = false

namespace Coherent

variable {c c' : Controller} {stale : StreamId → Bool}

/-- A stale stream may become fresh between two commands. -/
theorem runCommands (cmds : List Command) (h : c.Coherent stale) (hw : c.WellFormed)
    (report : CommandReport) :
    (c.runCommands report cmds).1.Coherent (c.staleCommands stale report cmds) := by
  induction cmds generalizing c stale report with
  | nil => exact h
  | cons cmd rest ih =>
    rw [Controller.runCommands, staleCommands]
    cases hf : c.runFront cmd report with
    | none => exact h.congr (core_offerCompletion c)
    | some x =>
      exact ih ((kept_coherent stale).runFront hw h hf).stillCached (hw.runFront hf) x.2

/-! ## Configurations -/

/-- New limits change what walks answer, but then the cache is emptied. -/
theorem adopt (h : c.Coherent stale) (hw : c.WellFormed) (new : Configuration)
    (events : Queue Event) (commands : Queue Command) (pageRequests : Queue PageRequest) :
    (c.adopt new events commands pageRequests).Coherent stale := by
  refine h.keep fun e he hfresh => ?_
  obtain ⟨hmem, hrules⟩ := mem_adopt he
  -- what is left was cached under the same rules, so its stream gets the limits it had
  have hlimits : limitsOf new = limitsOf c.config := by
    obtain ⟨hwidths, hzero⟩ := rulesChanged_eq_false.1 hrules
    rw [limitsOf, limitsOf, hwidths, hzero]
  refine ⟨hmem, hfresh, .mapStreams rfl rfl fun s hs => ?_⟩
  refine .of_eq rfl rfl (fun he => he) ?_ rfl rfl
  rw [hw.limits e.stream s hs]
  exact hlimits

/-- A shared table is changed; the streams that read it become stale, and no other answer
    changes. -/
theorem editTable (h : c.Coherent stale) (id : TableId) (change : PageTable.Op) :
    ({ c with resources := c.resources.setTable id ((c.resources.table id).edit change) } :
      Controller).Coherent (fun s => stale s || c.rewrites (.editTable id change) s) := by
  refine h.keep fun e he hfresh => ?_
  rw [Bool.or_eq_false_iff] at hfresh
  refine ⟨he, hfresh.1, fun s hs => ⟨s, hs, Stream.Keeps.refl s e.pasid e.page, fun j hj => ?_⟩⟩
  have hsame := hfresh.2
  rw [Resources.table_setTable]
  split
  · rename_i hij
    subst hij
    simpa [rewrites, hs, hj] using hsame
  · rfl

/-! ## Steps -/

/-- Every operation keeps the cache coherent outside the streams whose table it rewrites. -/
theorem step_rewrites (h : c.Coherent stale) (hw : c.WellFormed) (op : Op) :
    (c.step op).1.Coherent fun id => stale id || c.rewrites op id := by
  have hweak : c.Coherent fun id => stale id || c.rewrites op id :=
    h.mono fun id hfresh => (Bool.or_eq_false_iff.1 hfresh).1
  cases op with
  | configure id config =>
    refine settle_preserves hweak fun c' hc => ?_
    obtain ⟨s, hs, -, rfl⟩ | ⟨hn, -, s, hs, rfl⟩ := configure_eq_ok hc
    · exact hweak.invalidateStream hw hs (hw.keyed id s hs)
    · -- nothing is cached of a stream that was not there
      refine hweak.keep fun e he hfresh => ⟨he, hfresh, fun s₀ hs₀ => ?_⟩
      refine ⟨s₀, ?_, Stream.Keeps.refl s₀ e.pasid e.page, fun _ _ => rfl⟩
      have hid := (Stream.create_eq_ok hs).2.1
      rw [getElem?_setStream, hid, if_neg ?_, hs₀]
      rintro rfl
      rw [hn] at hs₀
      cases hs₀
  | removeStream id =>
    refine settle_preserves hweak fun c' hc => ?_
    obtain ⟨s, hs, rfl⟩ := removeStream_eq_ok hc
    refine Coherent.congr ?_ (core_terminateStream ..)
    refine hweak.keep fun e he hfresh => ?_
    obtain ⟨hmem, hne⟩ := (Tlb.mem_invalidateStream hw.indexed).1 he
    refine ⟨hmem, hfresh, fun s₀ hs₀ => ?_⟩
    refine ⟨s₀, ?_, Stream.Keeps.refl s₀ e.pasid e.page, fun _ _ => rfl⟩
    show (c.streams.erase id)[e.stream]? = some s₀
    rw [Std.ExtTreeMap.getElem?_erase, if_neg (by simpa using hne.symm), hs₀]
  | enable id =>
    refine settle_preserves hweak fun c' hc => ?_
    obtain ⟨s, hs, rfl⟩ := enable_eq_ok hc
    exact hweak.replace hs _ (hw.keyed id s hs) fun _ _ => .of_eq rfl rfl (fun _ => rfl) rfl rfl rfl
  | disable id =>
    refine settle_preserves hweak fun c' hc => ?_
    obtain ⟨s, hs, rfl⟩ := disable_eq_ok hc
    exact hweak.invalidateStream hw hs (hw.keyed id s hs)
  | setFaultMode mode =>
    refine hweak.keep fun e he hfresh => ⟨he, hfresh, ?_⟩
    exact .mapStreams rfl rfl fun s _ => .of_eq rfl rfl (fun he => he) rfl rfl rfl
  | attachTable id table =>
    refine settle_preserves hweak fun c' hc => ?_
    obtain ⟨s, hs, rfl⟩ := attachTable_eq_ok hc
    exact hweak.invalidateStream hw hs (hw.keyed id s hs)
  | attachLog id log =>
    refine settle_preserves hweak fun c' hc => ?_
    obtain ⟨s, hs, rfl⟩ := attachLog_eq_ok hc
    exact hweak.replace hs _ (hw.keyed id s hs) fun _ _ =>
      .of_eq rfl rfl (fun he => he) rfl rfl rfl
  | createPasid id pasid =>
    refine settle_preserves hweak fun c' hc => ?_
    obtain ⟨s, s', hs, hp, rfl⟩ := createPasid_eq_ok hc
    refine hweak.replace hs s' ?_ fun _ _ => .createPasid hp
    obtain ⟨-, rfl | ⟨-, -, rfl⟩⟩ := Stream.createPasid_eq_ok hp
    · exact hw.keyed id s' hs
    · exact hw.keyed id s hs
  | removePasid id pasid =>
    refine settle_preserves hweak fun c' hc => ?_
    obtain ⟨s, hs, rfl⟩ := removePasid_eq_ok hc
    refine Coherent.congr ?_ (core_terminatePasid ..)
    exact hweak.invalidatePasid hw hs (hw.keyed id s hs) fun _ _ hp => .erasePasid hp
  | clearPasids id =>
    refine settle_preserves hweak fun c' hc => ?_
    obtain ⟨s, hs, rfl⟩ := clearPasids_eq_ok hc
    refine Coherent.congr ?_ (core_terminateStream ..)
    exact hweak.invalidateStream hw hs (hw.keyed id s hs)
  | map id pasid m =>
    refine settle_preserves hweak fun c' hc => ?_
    obtain ⟨s, t, hs, -, ht, rfl⟩ := map_eq_ok hc
    refine hweak.invalidatePage hw hs ht fun b hb => ?_
    rw [PageTable.lookup_map, if_neg fun h => hb h.symm]
  | unmap id pasid a =>
    refine settleFlag_preserves hweak fun c' b hc => ?_
    obtain ⟨s, t, hs, ht, rfl⟩ := unmap_eq_ok hc
    refine hweak.invalidatePage hw hs ht fun b hb => ?_
    rw [PageTable.lookup_unmap, if_neg fun h => hb h.symm]
  | mapPages id pasid ms =>
    refine settle_preserves hweak fun c' hc => ?_
    obtain ⟨s, t, hs, -, ht, rfl⟩ := mapPages_eq_ok hc
    exact hweak.invalidatePasid hw hs (hw.keyed id s hs) fun _ _ hp =>
      .setPasidTable ht fun h => absurd h hp
  | unmapPages id pasid as =>
    refine settle_preserves hweak fun c' hc => ?_
    obtain ⟨s, t, hs, ht, rfl⟩ := unmapPages_eq_ok hc
    exact hweak.invalidatePasid hw hs (hw.keyed id s hs) fun _ _ hp =>
      .setPasidTable ht fun h => absurd h hp
  | editTable id change =>
    refine settleFlag_preserves hweak fun c' b hc => ?_
    obtain rfl := editTable_eq_ok hc
    exact h.editTable id change
  | translate t => exact (kept_coherent _).translate hw hweak t
  | submitCommand cmd => exact hweak.congr (core_submitCommand c cmd)
  | processCommands => exact (kept_coherent _).processCommands hw hweak
  | clearCommands => exact hweak.congr (core_clearCommands c)
  | submitPageRequest r => exact hweak.congr (core_submitPageRequest c r)
  | processPageRequests => exact hweak.congr (core_processPageRequests c)
  | clearPageRequests => exact hweak.congr (core_clearPageRequests c)
  | processEvents => exact hweak.congr (core_processEvents c)
  | clearEvents => exact hweak.congr (core_clearEvents c)
  | addSink s => exact hweak.congr (core_addSink c s)
  | invalidateAll => exact .of_empty rfl
  | invalidateStream id =>
    exact hweak.shrink rfl rfl fun e he => ((Tlb.mem_invalidateStream hw.indexed).1 he).1
  | invalidatePasid id pasid =>
    exact hweak.shrink rfl rfl fun e he => ((Tlb.mem_invalidatePasid hw.indexed).1 he).1
  | enableCaching enabled =>
    cases enabled with
    | true => exact hweak.shrink rfl rfl fun e he => he
    | false => exact .of_empty rfl
  | updateConfiguration new found =>
    refine settle_preserves hweak fun c' hc => ?_
    obtain ⟨-, events, commands, pageRequests, -, -, -, rfl⟩ := updateConfiguration_eq_ok hc
    exact hweak.adopt hw new events commands pageRequests
  | resetStatistics =>
    refine hweak.keep fun e he hfresh => ⟨he, hfresh, ?_⟩
    exact .mapStreams rfl rfl fun s _ =>
      .of_eq rfl rfl (fun he => he) rfl rfl rfl
  | reset => exact .of_empty rfl
  | elapse ns => exact hweak.congr (core_elapse c ns)

/-- Every operation keeps the cache coherent outside the streams that are stale after it. -/
theorem step (h : c.Coherent stale) (hw : c.WellFormed) (op : Op) :
    (c.step op).1.Coherent (c.staleAfter stale op) := by
  cases op with
  | processCommands => exact h.runCommands c.commands.entries hw .none
  | _ => exact (h.step_rewrites hw _).stillCached

end Coherent

end Iommu.Controller
