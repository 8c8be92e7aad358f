/-
  A stalled transaction can be recovered.

  A transaction stalls when its stage-1 walk meets a page that software can mend.  Once software has
  mapped the page, answering the request, processing the commands and returning the events is all that
  is left to do: after finitely many rounds both queues are empty, nothing is stalled on the page, and the
  same transaction is answered with the new frame.

  `Held` is what the stall leaves behind and every round keeps: the transaction reaches the stages of
  its stream (`Reaches`), and what is stalled on its page is awaited by a request or a response, or
  gone.  Mapping the page settles the answer of the tables, and leaves nothing of the page in the cache;
  what a prefetch adds later answers as a walk does, so the answer survives the rounds (`Mended`).  The
  rounds end by the measure of `drained_rounds`; with both queues empty nothing can be awaited, hence
  nothing is stalled.
-/
import Iommu.Proofs.Cache.Answer
import Iommu.Proofs.Command.Rounds
import Iommu.Proofs.Controller.StreamTable
import Iommu.Proofs.Frame.OutputWidth
import Iommu.Proofs.Stall.Answerable

namespace Iommu

/-- The mapping is for the page of a transaction, grants its access, and is made under a security state
    that the transaction may use. -/
structure Mapping.Serves (m : Mapping) (t : Transaction) : Prop where
  page : m.page = pageBase t.address
  permission : m.permissions.allows t.access = true
  security : t.security.canAccess m.security = true

namespace Controller

/-- The operation maps a page of the PASID of a transaction by a mapping, alone or among others. -/
inductive Remaps (t : Transaction) (m : Mapping) : Op → Prop
  | one : Remaps t m (.map t.stream t.pasid m)
  | among {ms : List Mapping} : m ∈ ms → Remaps t m (.mapPages t.stream t.pasid ms)

/-- Operations that take their turn in a round. -/
def Op.drains : Op → Bool
  | .processPageRequests => true
  | .processCommands => true
  | .processEvents => true
  | .elapse _ => true
  | _ => false

/-- A recovery round is made of draining operations only. -/
theorem drains_of_mem_rounds {pauses : List (Nat × Nat × Nat)} {op : Op} (h : op ∈ rounds pauses) :
    op.drains = true := by
  obtain ⟨pause, -, hop⟩ := List.mem_flatMap.1 h
  simp only [round, List.mem_cons, List.not_mem_nil, or_false] at hop
  rcases hop with rfl | rfl | rfl | rfl | rfl | rfl <;> rfl

/-! ## Reaching the stages -/

/-- A transaction reaches the stages of its stream, and these are the first alone. -/
def Reaches (t : Transaction) (c : Controller) : Prop :=
  ∃ s first, c.streams[t.stream]? = some s ∧ s.config.translationEnabled = true ∧
    s.config.stageMode = .stage1Only ∧ s.Enters t first

namespace Reaches

variable {t : Transaction} {c c' : Controller}

theorem congr (h : c.Reaches t) (hs : c'.streams = c.streams) : c'.Reaches t := by
  obtain ⟨s, first, hget, hrest⟩ := h
  exact ⟨s, first, hs ▸ hget, hrest⟩

/-- A stream replaced by one that keeps its walks. -/
theorem setStream (h : c.Reaches t) {id : StreamId} {s : Stream} (hs : c.streams[id]? = some s)
    (s' : Stream) (hid : s'.id = id) (hk : s.Keeps s' t.pasid t.address) :
    (c.setStream s').Reaches t := by
  obtain ⟨s₀, first, hget, htranslates, hmode, henters⟩ := h
  by_cases he : id = t.stream
  · subst he
    obtain rfl : s = s₀ := Option.some.inj (hs.symm.trans hget)
    obtain ⟨first', hpresent, -⟩ := hk.pages first henters.present
    refine ⟨s', first', ?_, hk.translationEnabled.trans htranslates, hk.stageMode.trans hmode, ?_⟩
    · rw [getElem?_setStream, if_pos hid]
    · refine ⟨hk.enabled henters.enabled, ?_, hpresent, ?_⟩
      · rw [Stream.admitsPasid, hk.limits]
        exact henters.admitted
      · rw [hk.limits]
        exact henters.fits
  · refine ⟨s₀, first, ?_, htranslates, hmode, henters⟩
    rw [getElem?_setStream, if_neg (hid ▸ he), hget]

theorem hosts (h : c.Reaches t) : c.Hosts t.stream t.pasid := by
  obtain ⟨s, first, hget, -, -, henters⟩ := h
  exact ⟨s, hget, Stream.hasPasid_eq_true.2 ⟨first, henters.present⟩⟩

end Reaches

/-- Translating and processing keep the tables that a transaction reaches. -/
theorem kept_reaches (t : Transaction) : Kept (Reaches t) where
  congr h hcore := h.congr (congrArg Core.streams hcore)
  drop _ h _ := h.congr rfl
  answered {_ id s} hw h hs := h.setStream hs (s.countTranslation true) (hw.keyed id s hs)
    (.of_eq rfl rfl (fun he => he) rfl rfl rfl)
  missed {c id s} hw h hs t f :=
    (h.setStream hs ((s.countTranslation false).recordFault c.resources c.clock t f).1
      (hw.keyed id s hs) (.of_eq rfl rfl (fun he => he) rfl rfl rfl)).congr rfl
  remembered _ h _ _ _ := h.congr (streams_remember ..)

/-- What a held-back transaction shows: a retryable fault on a stream in stall mode. -/
theorem heldBack_eq_true {c : Controller} {t : Transaction} {answer : Except Error Translation}
    (h : c.heldBack t answer = true) : ∃ e s, answer = .error e ∧
      c.streams[t.stream]? = some s ∧ e.retryable = true ∧ s.config.faultMode = .stall := by
  unfold heldBack at h
  split at h
  · rename_i e s hs
    rw [Bool.and_eq_true, decide_eq_true_eq] at h
    exact ⟨e, s, rfl, hs, h.1, h.2⟩
  · cases h

/-- A stall is recorded of a transaction that reaches the stages, and brings its request. -/
theorem reaches_of_records {c : Controller} {t : Transaction} {s : Stream}
    (hs : c.streams[t.stream]? = some s) (hmode : s.config.stageMode = .stage1Only)
    (h : c.records (.translate t) = true) :
    c.Reaches t ∧ (c.translate t).1.waiting.Requested t := by
  have hstalls : (c.translate t).1.waiting.stalls = c.stalls.stalls ++ [⟨t, c.stamp⟩] :=
    of_decide_eq_true h
  have harrival := waiting_translate c t
  generalize hheld : c.heldBack t (c.translate t).2 = held at harrival
  generalize (c.translate t).1.waiting = w at harrival hstalls ⊢
  cases harrival with
  | served => exact absurd hstalls (by simp [waiting])
  | overflowed _ => exact absurd hstalls (by simp [waiting])
  | recorded _ _ =>
    constructor
    · -- what is held back failed in the tables, and retryable means that the walk reached them
      obtain ⟨e, s', herror, hs', hretry, -⟩ := heldBack_eq_true hheld
      obtain rfl : s = s' := Option.some.inj (hs.symm.trans hs')
      rw [translate_snd hs] at herror
      split at herror
      · cases herror
      · cases hwalk : s.walk c.resources t with
        | ok r =>
          rw [hwalk] at herror
          cases herror
        | error f =>
          rw [hwalk] at herror
          obtain rfl := Except.error.inj herror
          obtain ⟨htranslates, first, henters⟩ := Stream.enters_of_retryable hwalk hretry
          exact ⟨s, first, hs, htranslates, hmode, henters⟩
    · refine ⟨{ PageRequest.ofTransaction t with timestamp := c.stamp }, ?_, rfl, rfl, rfl⟩
      exact List.mem_append_right _ (List.mem_singleton.2 rfl)

/-! ## Held -/

/-- What a recorded stall leaves behind: the transaction reaches the stages, and what is stalled on its
    page has a request or a response queued. -/
structure Held (t : Transaction) (c : Controller) : Prop where
  wellFormed : c.WellFormed
  sized : c.Sized
  reaches : c.Reaches t
  released : c.waiting.Awaits t ∨ ∀ x ∈ c.stalls.stalls, ¬x.transaction.SharesPage t

/-- Processing the commands releases a page with its response. -/
theorem released_processCommands {c : Controller} {t : Transaction} (hr : c.Reaches t)
    (h : c.waiting.Awaits t ∨ ∀ x ∈ c.stalls.stalls, ¬x.transaction.SharesPage t) :
    c.processCommands.1.waiting.Awaits t ∨
      ∀ x ∈ c.processCommands.1.stalls.stalls, ¬x.transaction.SharesPage t := by
  refine (processCommands_preserves (P := fun d => d.Reaches t ∧
    (d.waiting.Awaits t ∨ ∀ x ∈ d.stalls.stalls, ¬x.transaction.SharesPage t)) ?_ ?_ ⟨hr, h⟩).2
  · rintro d d' cmd rest report report' he hf ⟨hreaches, hreleased⟩
    refine ⟨hreaches.congr (streams_runFront hf), ?_⟩
    rcases hreleased with hawaits | hnone
    · exact awaits_runFront hawaits hreaches.hosts he hf
    · exact Or.inr fun x hx => hnone x ((settles_runFront hf).kept x hx).1
  · exact fun d hd => hd

/-- A draining operation keeps what a recorded stall left behind. -/
theorem Held.step {c : Controller} {t : Transaction} (h : c.Held t) {op : Op}
    (hop : op.drains = true) : (c.step op).1.Held t := by
  refine ⟨h.wellFormed.step op, h.sized.step op, ?_, ?_⟩
  · cases op with
    | processCommands => exact h.reaches.congr (streams_processCommands c)
    | processPageRequests => exact h.reaches.congr rfl
    | processEvents => exact h.reaches.congr rfl
    | elapse ns => exact h.reaches.congr rfl
    | _ => cases hop
  · cases op with
    | processCommands => exact released_processCommands h.reaches h.released
    | processPageRequests => exact h.released.imp awaits_processPageRequests id
    | processEvents => exact h.released
    | elapse ns => exact h.released
    | _ => cases hop

/-- So does a run of draining operations. -/
theorem Held.run {c : Controller} {t : Transaction} (h : c.Held t) {ops : List Op}
    (hops : ∀ op ∈ ops, op.drains = true) : (c.run ops).1.Held t :=
  run_preserves_of (P := Held t) (fun _ _ hc hkind => hc.step hkind) h hops

/-! ## Mended -/

/-- The page is mapped: the tables answer the transaction, and so does what is cached for it. -/
structure Mended (t : Transaction) (r : Translation) (c : Controller) : Prop extends c.Held t where
  answer : c.answer t = .ok r
  cached : ∀ e ∈ c.tlb.entries, e.key = .ofAddress t.stream t.pasid t.address t.security →
    c.Answers e

/-- A draining operation keeps the page mapped, and the cache in step with it. -/
theorem Mended.step {c : Controller} {t : Transaction} {r : Translation} (h : c.Mended t r)
    {op : Op} (hop : op.drains = true) : (c.step op).1.Mended t r := by
  have hkept := kept_answering fun e => e.key = .ofAddress t.stream t.pasid t.address t.security
  refine ⟨h.toHeld.step hop, ?_, ?_⟩
  · cases op with
    | processCommands =>
      show c.processCommands.1.answer t = .ok r
      rw [← h.answer, processed_processCommands c]
      exact answer_eq rfl fun _ => rfl
    | processPageRequests => exact h.answer
    | processEvents => exact h.answer
    | elapse ns => exact h.answer
    | _ => cases hop
  · cases op with
    | processCommands => exact hkept.processCommands h.wellFormed h.cached
    | processPageRequests => exact hkept.congr h.cached rfl
    | processEvents => exact hkept.congr h.cached rfl
    | elapse ns => exact hkept.congr h.cached rfl
    | _ => cases hop

/-- So does a run of draining operations. -/
theorem Mended.run {c : Controller} {t : Transaction} {r : Translation} (h : c.Mended t r)
    {ops : List Op} (hops : ∀ op ∈ ops, op.drains = true) : (c.run ops).1.Mended t r :=
  run_preserves_of (P := Mended t r) (fun _ _ hc hkind => hc.step hkind) h hops

/-- A transaction still reaches the stages when the table of its PASID is written, and looks its page up
    in the new one. -/
theorem Reaches.setPasidTable {c c' : Controller} {t : Transaction} (h : c.Reaches t)
    (hw : c.WellFormed) {s : Stream} (hs : c.streams[t.stream]? = some s) (table : PageTable)
    (hstreams : c'.streams = (c.setStream (s.setPasidTable t.pasid table)).streams) :
    ∃ s', c'.streams[t.stream]? = some s' ∧ s'.config.translationEnabled = true ∧
      s'.config.stageMode = .stage1Only ∧ s'.Enters t table := by
  obtain ⟨s₀, first, hget, htranslates, hmode, henters⟩ := h
  obtain rfl : s = s₀ := Option.some.inj (hs.symm.trans hget)
  refine ⟨s.setPasidTable t.pasid table, ?_, htranslates, hmode, henters.enabled, henters.admitted,
    ?_, henters.fits⟩
  · rw [hstreams, getElem?_setStream]
    exact if_pos (hw.keyed t.stream s hs)
  · rw [Stream.getElem?_setPasidTable, if_pos rfl]

/-- The answer of the first stage where a mapping of the page is found. -/
theorem answer_of_lookup {c : Controller} {t : Transaction} {m : Mapping} {s : Stream}
    {table : PageTable} (hs : c.streams[t.stream]? = some s)
    (htranslates : s.config.translationEnabled = true) (hmode : s.config.stageMode = .stage1Only)
    (henters : s.Enters t table) (hlookup : table.lookup t.address = some m.entry)
    (hm : m.Serves t) :
    c.answer t = .ok (.walked (inPage m.physical t.address) none m.permissions t.security) := by
  have hgrants : table.Grants t.address t.access t.security m.entry :=
    ⟨hlookup, rfl, hm.security, hm.permission⟩
  have hanswers : Stream.Answers table (s.table.map c.resources.table) t s.config.stageMode
      (Stream.throughOne t m.entry) := by
    rw [hmode]
    exact .stage1Only hgrants
  rw [answer_of_stream hs, (Stream.walk_eq_ok_iff htranslates).2 ⟨table, henters, hanswers⟩]
  show Except.ok (Translation.walked (inPage (pageBase m.physical) t.address) none _ _) = _
  rw [inPage_pageBase]
  rfl

/-- Where the page was written and nothing of it is cached, what was held is mended. -/
theorem Held.mended {c c' : Controller} {t : Transaction} {m : Mapping} (h : c.Held t)
    (hw : c'.WellFormed) (hsized : c'.Sized) (hidle : Idle c c') {s : Stream} {table : PageTable}
    (hs : c.streams[t.stream]? = some s)
    (hstreams : c'.streams = (c.setStream (s.setPasidTable t.pasid table)).streams)
    (hlookup : table.lookup t.address = some m.entry) (hm : m.Serves t)
    (hgone : ∀ e ∈ c'.tlb.entries,
      e.key ≠ .ofAddress t.stream t.pasid t.address t.security) :
    c'.Mended t (.walked (inPage m.physical t.address) none m.permissions t.security) := by
  obtain ⟨s', hs', htranslates, hmode, henters⟩ := h.reaches.setPasidTable h.wellFormed hs table
    hstreams
  have hstalls : c'.stalls.stalls = c.stalls.stalls := congrArg Waiting.stalls hidle.waiting
  exact {
    wellFormed := hw
    sized := hsized
    reaches := ⟨s', table, hs', htranslates, hmode, henters⟩
    released := by
      rw [hidle.waiting, hstalls]
      exact h.released
    answer := answer_of_lookup hs' htranslates hmode henters hlookup hm
    cached := fun e he hkey => absurd hkey (hgone e he) }

/-- Mapping the page mends what is held. -/
theorem Held.remapped {c : Controller} {t : Transaction} {m : Mapping} {op : Op} (h : c.Held t)
    (hop : Remaps t m op) (hm : m.Serves t) (hok : (c.step op).2.isOk = true) :
    (c.step op).1.Mended t
      (.walked (inPage m.physical t.address) none m.permissions t.security) := by
  have hw := h.wellFormed.step op
  have hsized := h.sized.step op
  have hidle : Idle c (c.step op).1 := idle_step h.wellFormed (by cases hop <;> rfl)
  have hpage : ∀ table : PageTable, table.lookup t.address = table.lookup m.input :=
    fun table => table.lookup_congr hm.page.symm
  cases hop with
  | one =>
    obtain ⟨c', hc⟩ := isOk_settle.1 hok
    have hstep : (c.step (.map t.stream t.pasid m)).1 = c' := congrArg (fun r => (c.settle r).1) hc
    rw [hstep] at hw hsized hidle ⊢
    obtain ⟨s, table, hs, -, -, rfl⟩ := map_eq_ok hc
    refine h.mended hw hsized hidle hs rfl ?_ hm fun e he hkey => ?_
    · rw [hpage, PageTable.lookup_map]
      exact if_pos rfl
    · -- the page is invalidated for every security state
      have hgone := ((Tlb.mem_invalidateRange h.wellFormed.indexed).1 he).2
      refine hgone ⟨congrArg TlbKey.stream hkey, congrArg TlbKey.pasid hkey, ?_⟩
      have hentry : pageBase e.page = pageBase t.address := congrArg TlbKey.page hkey
      rw [PageRange.single_selects, hentry, ← hm.page]
      exact beq_self_eq_true _
  | @among ms hmem =>
    obtain ⟨c', hc⟩ := isOk_settle.1 hok
    have hstep : (c.step (.mapPages t.stream t.pasid ms)).1 = c' :=
      congrArg (fun r => (c.settle r).1) hc
    have hnodup := nodup_of_mapPages hc
    rw [hstep] at hw hsized hidle ⊢
    obtain ⟨s, table, hs, -, -, rfl⟩ := mapPages_eq_ok hc
    refine h.mended hw hsized hidle hs rfl ?_ hm fun e he hkey => ?_
    · rw [hpage]
      exact PageTable.lookup_foldl_map_of_mem hnodup hmem table
    · have hgone := ((Tlb.mem_invalidatePasid h.wellFormed.indexed).1 he).2
      exact hgone ⟨congrArg TlbKey.stream hkey, congrArg TlbKey.pasid hkey⟩

/-! ## Recovery -/

/-- Nothing waits any more, nothing is stalled on the page of the transaction, and the same transaction
    is answered with the frame of the mapping at its own offset. -/
structure Recovered (t : Transaction) (m : Mapping) (c : Controller) : Prop where
  requests : c.pageRequests.entries = []
  commands : c.commands.entries = []
  stalls : ∀ x ∈ c.stalls.stalls, ¬x.transaction.SharesPage t
  answer : ∃ hit, (c.translate t).2 = .ok { Translation.walked (inPage m.physical t.address) none
    m.permissions t.security with cacheHit := hit }

/-- With both queues empty nothing is awaited, so what was mended is recovered. -/
theorem Mended.recovered {c : Controller} {t : Transaction} {m : Mapping}
    (h : c.Mended t (.walked (inPage m.physical t.address) none m.permissions t.security))
    (hrequests : c.pageRequests.entries = []) (hcommands : c.commands.entries = []) :
    c.Recovered t m := by
  refine ⟨hrequests, hcommands, ?_, ?_⟩
  · rcases h.released with (⟨r, hr, -⟩ | ⟨cmd, hcmd, -⟩) | hnone
    · exact absurd hr (by rw [show c.waiting.requests = [] from hrequests]; exact List.not_mem_nil)
    · exact absurd hcmd (by rw [show c.waiting.commands = [] from hcommands]; exact List.not_mem_nil)
    · exact hnone
  · have hanswer := (masked_translate (faithful_of_answers h.cached)).trans h.answer
    cases htranslate : (c.translate t).2 with
    | error e =>
      rw [htranslate] at hanswer
      cases hanswer
    | ok r =>
      rw [htranslate] at hanswer
      have hr : { r with cacheHit := false } = Translation.walked (inPage m.physical t.address) none
        m.permissions t.security := Except.ok.inj hanswer
      exact ⟨r.cacheHit, by rw [← hr]⟩

/-- In every reachable state, let a transaction on a stream with stage 1 alone be recorded as stalled.
    Once software maps its page so that the access is granted, rounds of processing empty the queues of
    page requests and commands, nothing stays stalled on the page, and the same transaction is
    answered with the new frame at its own offset.  The rounds may begin before the page is mapped,
    and time may pass anywhere. -/
theorem stall_recovers {config : Configuration} {c : Controller} (h : create config = .ok c)
    (ops : List Op) {t : Transaction} {s : Stream}
    (hs : (c.run ops).1.streams[t.stream]? = some s) (hmode : s.config.stageMode = .stage1Only)
    (hrecords : (c.run ops).1.records (.translate t) = true) {between : List Op}
    (hbetween : ∀ op ∈ between, op.drains = true) {op : Op} {m : Mapping}
    (hop : Remaps t m op) (hm : m.Serves t)
    (hok : ((c.run (ops ++ .translate t :: between)).1.step op).2.isOk = true)
    {pauses : List (Nat × Nat × Nat)}
    (hlong : ((c.run (ops ++ .translate t :: between)).1.step op).1.load < pauses.length) :
    ((((c.run (ops ++ .translate t :: between)).1.step op).1.run (rounds pauses)).1).Recovered t m := by
  have hw := (wellFormed_of_create h).run ops
  obtain ⟨hreaches, hrequested⟩ := reaches_of_records hs hmode hrecords
  have hstalled : ((c.run ops).1.step (.translate t)).1.Held t :=
    { wellFormed := hw.step (.translate t)
      sized := (sized_run h ops).step (.translate t)
      reaches := (kept_reaches t).translate hw hreaches t
      released := Or.inl (Or.inl hrequested) }
  have hheld : (c.run (ops ++ .translate t :: between)).1.Held t := by
    rw [run_append]
    exact hstalled.run hbetween
  have hmapped := hheld.remapped hop hm hok
  obtain ⟨hrequests, hcommands⟩ := drained_rounds hmapped.wellFormed hmapped.sized hlong
  have hdrains : ∀ op ∈ rounds pauses, op.drains = true := fun _ => drains_of_mem_rounds
  have hmended := hmapped.run hdrains
  exact hmended.recovered hrequests hcommands

/-- A SYNC fills the command queue and the two events of the stall fill the event queue: the first round
    only returns events, the second completes the SYNC, and the third releases the page. -/
theorem stall_recovers_behind_sync :
    let config : Configuration := { queues := { events := 2, commands := 1 } }
    let c := start config [] [] .empty 0
    let t : Transaction := ⟨1, 0, 0x1234, .read, .nonSecure⟩
    let ops : List Op := [.configure 1 { faultMode := .stall }, .createPasid 1 0,
      .submitCommand .sync]
    let m : Mapping := ⟨0x1000, 0x8000, .full, .nonSecure⟩
    let remap : Op := .map t.stream t.pasid m
    let pauses := [(0, 1, 0), (2, 0, 0), (0, 0, 3)]
    create config = .ok c ∧ (c.run ops).1.records (.translate t) = true ∧
      ((c.run (ops ++ [.translate t, .elapse 5])).1.step remap).1.load = 2 ∧
      ((((c.run (ops ++ [.translate t, .elapse 5])).1.step remap).1.run
        (rounds (pauses.take 2))).1).stalls.stalls ≠ [] ∧
      ((((c.run (ops ++ [.translate t, .elapse 5])).1.step remap).1.run
        (rounds pauses)).1).Recovered t m := by
  intro config c t ops m remap pauses
  have hc : create config = .ok c := rfl
  have hrecords : (c.run ops).1.records (.translate t) = true := by decide +kernel
  have hload : ((c.run (ops ++ [.translate t, .elapse 5])).1.step remap).1.load = 2 := by
    decide +kernel
  have hserves : m.Serves t := ⟨by decide +kernel, rfl, rfl⟩
  have hstream : ((c.run ops).1.streams[t.stream]?.map fun s => s.config.stageMode) =
      some .stage1Only := by decide +kernel
  obtain ⟨s, hs, hmode⟩ := Option.map_eq_some_iff.1 hstream
  have hlong : ((c.run (ops ++ [.translate t, .elapse 5])).1.step remap).1.load < pauses.length := by
    rw [hload]
    decide
  have hbetween : ∀ op ∈ [Op.elapse 5], op.drains = true := by simp [Op.drains]
  have hremaps : Remaps t m remap := .one
  have hmapped : ((c.run (ops ++ [.translate t, .elapse 5])).1.step remap).2.isOk = true := by
    decide +kernel
  exact ⟨hc, hrecords, hload, by decide +kernel,
    stall_recovers hc ops hs hmode hrecords hbetween hremaps hserves hmapped hlong⟩

end Controller

end Iommu
