/-
  Where output frames come from.

  A frame is held by the table of a PASID, by a shared table or by an entry of the cache.  `Within p`
  says that every frame held has a property `p`, for any property of whole pages.  An operation brings
  no frame but those of the mappings it writes (`Within.step`): the cache only repeats what a walk
  found in the tables (`TablesWithin.walk`), and every other change to tables and cache drops entries.
-/
import Iommu.Proofs.Controller.Kept
import Iommu.Proofs.PageTable.Bulk

namespace Iommu

/-- A property of the page that an address lies in. -/
def OfPage (p : UInt64 → Prop) : Prop := ∀ a b, pageBase a = pageBase b → p a → p b

/-- A property of pages does not see an offset, -/
theorem OfPage.inPage {p : UInt64 → Prop} (hp : OfPage p) {frame a : UInt64} :
    p (inPage frame a) ↔ p frame :=
  ⟨hp _ _ (pageBase_inPage frame a), hp _ _ (pageBase_inPage frame a).symm⟩

/-- and so not that it is missing. -/
theorem OfPage.pageBase {p : UInt64 → Prop} (hp : OfPage p) {frame : UInt64} :
    p (pageBase frame) ↔ p frame :=
  ⟨hp _ _ (pageBase_pageBase frame), hp _ _ (pageBase_pageBase frame).symm⟩

variable {p : UInt64 → Prop}

/-! ## Tables -/

namespace PageTable

/-- Every frame of the table has a property. -/
def Within (p : UInt64 → Prop) (t : PageTable) : Prop := ∀ a e, t.lookup a = some e → p e.physical

namespace Within

variable {t : PageTable}

/-- An empty table has no frame. -/
theorem empty : PageTable.empty.Within p := by
  intro a e he
  rw [lookup_empty] at he
  cases he

/-- A mapping brings one frame in. -/
theorem map (hp : OfPage p) (h : t.Within p) {m : Mapping} (hm : p m.physical) :
    (t.map m).Within p := by
  intro a e he
  rw [lookup_map] at he
  split at he
  · obtain rfl := Option.some.inj he
    exact hp.pageBase.2 hm
  · exact h a e he

/-- Unmapping brings none in. -/
theorem unmap (h : t.Within p) (a : UInt64) : (t.unmap a).Within p := by
  intro b e he
  rw [lookup_unmap] at he
  split at he
  · cases he
  · exact h b e he

/-- Mappings bring their frames in, and no others. -/
theorem foldl_map (hp : OfPage p) (ms : List Mapping) (h : t.Within p)
    (hms : ∀ m ∈ ms, p m.physical) : (ms.foldl PageTable.map t).Within p := by
  induction ms generalizing t with
  | nil => exact h
  | cons m ms ih =>
    have hm : p m.physical := hms m List.mem_cons_self
    exact ih (h.map hp hm) fun x hx => hms x (List.mem_cons_of_mem m hx)

theorem foldl_unmap (as : List UInt64) (h : t.Within p) :
    (as.foldl PageTable.unmap t).Within p := by
  induction as generalizing t with
  | nil => exact h
  | cons a as ih => exact ih (h.unmap a)

/-- A change, accepted or not. -/
theorem edit (hp : OfPage p) (h : t.Within p) {op : Op}
    (hop : (t.step op).isOk = true → ∀ m ∈ op.mappings, p m.physical) : (t.edit op).Within p := by
  unfold PageTable.edit
  cases op with
  | map m => exact h.map hp (hop rfl m List.mem_cons_self)
  | unmap a => exact h.unmap a
  | clear => exact empty
  | mapPages ms =>
    rw [step, mapPages] at hop ⊢
    cases hr : firstRepeat [] (ms.map Mapping.page) with
    | some q => exact h
    | none =>
      rw [hr] at hop
      exact foldl_map hp ms h (hop rfl)
  | unmapPages as =>
    rw [step, unmapPages]
    cases hr : as.find? fun a => !t.isMapped a with
    | some a => exact h
    | none => exact foldl_unmap as h

end Within

end PageTable

/-! ## Streams -/

namespace Stream

/-- Every frame of every PASID's table has a property. -/
def Within (p : UInt64 → Prop) (s : Stream) : Prop :=
  ∀ (pasid : Pasid) (t : PageTable), s.pasids[pasid]? = some t → t.Within p

/-- The table of a PASID may be replaced by any that is within. -/
theorem Within.setPasidTable {s : Stream} (h : s.Within p) {t : PageTable} (ht : t.Within p)
    (pasid : Pasid) : (s.setPasidTable pasid t).Within p := by
  intro q t' ht'
  rw [getElem?_setPasidTable] at ht'
  split at ht'
  · obtain rfl := Option.some.inj ht'
    exact ht
  · exact h q t' ht'

/-- A new PASID has an empty table. -/
theorem Within.createPasid {s s' : Stream} {pasid : Pasid} (h : s.Within p)
    (hs : s.createPasid pasid = .ok s') : s'.Within p := by
  obtain ⟨-, rfl | ⟨-, -, rfl⟩⟩ := createPasid_eq_ok hs
  · exact h
  · exact h.setPasidTable .empty pasid

/-- A PASID goes with its frames. -/
theorem Within.erasePasid {s : Stream} (h : s.Within p) (pasid : Pasid) :
    ({ s with pasids := s.pasids.erase pasid } : Stream).Within p := by
  intro q t ht
  rw [Std.ExtTreeMap.getElem?_erase] at ht
  split at ht
  · cases ht
  · exact h q t ht

theorem within_of_pasids_eq_empty {s : Stream} (h : s.pasids = ∅) : s.Within p := by
  intro q t ht
  simp [h] at ht

/-- The entry that the last stage of a mode holds for a transaction. -/
def LastStage (first : PageTable) (second : Option PageTable) (t : Transaction) (e : PageEntry) :
    StageMode → Prop
  | .bypass => False
  | .stage1Only => first.Grants t.address t.access t.security e
  | .stage2Only => ∃ table, second = some table ∧ table.Grants t.address t.access t.security e
  | .bothStages => ∃ table e1, first.Grants t.address t.access t.security e1 ∧
    second = some table ∧ table.Grants (inPage e1.physical t.address) t.access t.security e

/-- The stages answer with the frame of the last one. -/
theorem Answers.lastStage {first : PageTable} {second : Option PageTable} {t : Transaction}
    {mode : StageMode} {r : Translation} (h : Answers first second t mode r)
    (hb : r.bypassed = false) :
    ∃ e, LastStage first second t e mode ∧ r.physical = inPage e.physical t.address := by
  cases h with
  | bypass => cases hb
  | stage1Only hg => exact ⟨_, hg, rfl⟩
  | stage2Only hs hg => exact ⟨_, ⟨_, hs, hg⟩, rfl⟩
  | bothStages hg1 hs hg2 => exact ⟨_, ⟨_, _, hg1, hs, hg2⟩, rfl⟩

/-- Where the last stage holds an entry the stages answer. -/
theorem LastStage.answers {first : PageTable} {second : Option PageTable} {t : Transaction}
    {mode : StageMode} {e : PageEntry} (h : LastStage first second t e mode) :
    ∃ r, Answers first second t mode r ∧ r.bypassed = false ∧
      r.physical = inPage e.physical t.address := by
  cases mode with
  | bypass => exact h.elim
  | stage1Only => exact ⟨_, .stage1Only h, rfl, rfl⟩
  | stage2Only =>
    obtain ⟨table, hs, hg⟩ := h
    exact ⟨_, .stage2Only hs hg, rfl, rfl⟩
  | bothStages =>
    obtain ⟨table, e1, hg1, hs, hg2⟩ := h
    exact ⟨_, .bothStages hg1 hs hg2, rfl, rfl⟩

/-- The last stage of a walk answers a frame of its table. -/
theorem LastStage.within {first : PageTable} {second : Option PageTable} {t : Transaction}
    {mode : StageMode} {e : PageEntry} (h : LastStage first second t e mode)
    (hfirst : first.Within p) (hsecond : ∀ table, second = some table → table.Within p) :
    p e.physical := by
  cases mode with
  | bypass => exact h.elim
  | stage1Only => exact hfirst _ e h.present
  | stage2Only =>
    obtain ⟨table, hs, hg⟩ := h
    exact hsecond table hs _ e hg.present
  | bothStages =>
    -- the frame of stage 1 is an input of stage 2, not an answer
    obtain ⟨table, e1, -, hs, hg⟩ := h
    exact hsecond table hs _ e hg.present

end Stream

/-! ## The controller -/

namespace Controller

/-- Every frame of a table, a stream's own or shared, has a property. -/
structure TablesWithin (p : UInt64 → Prop) (c : Controller) : Prop where
  streams : ∀ (id : StreamId) (s : Stream), c.streams[id]? = some s → s.Within p
  shared : ∀ id, (c.resources.table id).Within p

/-- Every frame that the controller holds has a property. -/
structure Within (p : UInt64 → Prop) (c : Controller) : Prop extends TablesWithin p c where
  cached : ∀ e ∈ c.tlb.entries, p e.physical

/-- The mappings that an operation writes if it succeeds. -/
def Op.mappings : Op → List Mapping
  | .map _ _ m => [m]
  | .mapPages _ _ ms => ms
  | .editTable _ change => change.mappings
  | _ => []

/-- A shared table takes a change if the table does. -/
theorem isOk_editTable (c : Controller) (id : TableId) (change : PageTable.Op) :
    (c.step (.editTable id change)).2.isOk = ((c.resources.table id).step change).isOk := by
  rw [step, editTable]
  cases (c.resources.table id).step change <;> rfl

/-- A new controller holds no frame. -/
theorem within_start (config : Configuration) (sinks : List Sink) (deliveries : List Delivery)
    (clock : Nat) : (start config sinks deliveries .empty clock).Within p := by
  refine ⟨⟨fun id s hs => ?_, fun id => ?_⟩, fun e he => by cases he⟩
  · simp [start] at hs
  · have hempty : Resources.empty.table id = PageTable.empty := by
      simp [Resources.table, Resources.empty]
    show (Resources.empty.table id).Within p
    rw [hempty]
    exact .empty

/-- A walk that does not bypass answers with a frame of a table. -/
theorem TablesWithin.walk {c : Controller} (h : c.TablesWithin p) (hp : OfPage p) {s : Stream}
    {id : StreamId} {t : Transaction} {r : Translation} (hs : c.streams[id]? = some s)
    (hr : s.walk c.resources t = .ok r) (hb : r.bypassed = false) : p r.physical := by
  obtain ⟨first, hentry, hans⟩ :=
    (Stream.walk_eq_ok_iff (Stream.translationEnabled_of_walk hr hb)).1 hr
  obtain ⟨e, hlast, hphysical⟩ := hans.lastStage hb
  rw [hphysical, hp.inPage]
  refine hlast.within (h.streams id s hs t.pasid first hentry.present) fun table htable => ?_
  obtain ⟨tid, -, rfl⟩ := Option.map_eq_some_iff.1 htable
  exact h.shared tid

namespace Within

variable {c c' : Controller}

/-- What is held is held by the core. -/
theorem congr (h : c.Within p) (hcore : c'.core = c.core) : c'.Within p := by
  have hstreams : c'.streams = c.streams := congrArg Core.streams hcore
  have htlb : c'.tlb = c.tlb := congrArg Core.tlb hcore
  have hresources : c'.resources = c.resources := congrArg Core.resources hcore
  refine ⟨⟨?_, ?_⟩, ?_⟩
  · rw [hstreams]
    exact h.streams
  · rw [hresources]
    exact h.shared
  · rw [htlb]
    exact h.cached

/-- The cache may lose entries. -/
theorem shrink (h : c.Within p) (hs : c'.streams = c.streams) (hr : c'.resources = c.resources)
    (hsub : ∀ e ∈ c'.tlb.entries, e ∈ c.tlb.entries) : c'.Within p := by
  refine ⟨⟨?_, ?_⟩, fun e he => h.cached e (hsub e he)⟩
  · rw [hs]
    exact h.streams
  · rw [hr]
    exact h.shared

/-- One stream is put in place, and the cache may lose entries. -/
theorem setStream (h : c.Within p) {s : Stream} (hs : s.Within p)
    (hstreams : c'.streams = (c.setStream s).streams) (hr : c'.resources = c.resources)
    (hsub : ∀ e ∈ c'.tlb.entries, e ∈ c.tlb.entries) : c'.Within p := by
  refine ⟨⟨fun id x hx => ?_, ?_⟩, fun e he => h.cached e (hsub e he)⟩
  · rw [hstreams, getElem?_setStream] at hx
    split at hx
    · obtain rfl := Option.some.inj hx
      exact hs
    · exact h.streams id x hx
  · rw [hr]
    exact h.shared

/-- A stream may be replaced by one that is within. -/
theorem replace (h : c.Within p) {s : Stream} (hs : s.Within p) : (c.setStream s).Within p :=
  h.setStream hs rfl rfl fun _ he => he

end Within

/-- All streams may be changed, but for their tables. -/
theorem TablesWithin.mapStreams {c c' : Controller} (h : c.TablesWithin p) {f : Stream → Stream}
    (hf : ∀ s, (f s).pasids = s.pasids) (hstreams : c'.streams = (c.mapStreams f).streams)
    (hr : c'.resources = c.resources) : c'.TablesWithin p := by
  refine ⟨fun id x hx => ?_, ?_⟩
  · rw [hstreams, getElem?_mapStreams, Option.map_eq_some_iff] at hx
    obtain ⟨s, hs, rfl⟩ := hx
    rw [Stream.Within, hf]
    exact h.streams id s hs
  · rw [hr]
    exact h.shared

namespace Within

variable {c c' : Controller}

/-! ## Translation and commands -/

/-- A translation is stored with the frame that its walk found. -/
theorem remember (h : c.Within p) (hp : OfPage p) {t : Transaction} {r : Translation}
    (hr : r.bypassed = false → p r.physical) (epoch : Nat) : (c.remember t r epoch).Within p := by
  refine ⟨⟨?_, ?_⟩, fun e he => ?_⟩
  · rw [streams_remember]
    exact h.streams
  · rw [resources_remember]
    exact h.shared
  · rcases mem_remember he with hmem | ⟨hb, rfl⟩
    · exact h.cached e hmem
    · exact hp.pageBase.2 (hr hb)

/-- A stream counts a fault and keeps its tables. -/
theorem missed (h : c.Within p) {id : StreamId} {s : Stream} (hs : c.streams[id]? = some s)
    (t : Transaction) (f : StageFault) : (c.missed s t f).Within p := by
  have hset : (c.setStream ((s.countTranslation false).recordFault c.resources c.clock t
      f).1).Within p := h.replace (h.streams id s hs)
  refine ⟨⟨hset.streams, fun tid => ?_⟩, hset.cached⟩
  -- the fault went to a log, so the shared tables are those they were
  have htable : (c.missed s t f).resources.table tid = c.resources.table tid :=
    Resources.table_record ..
  rw [htable]
  exact h.shared tid

end Within

/-- Calls to translate and commands bring no frame. -/
theorem kept_within (hp : OfPage p) : Kept (Within p) where
  congr h hcore := h.congr hcore
  drop _ h hsub := h.shrink rfl rfl hsub
  answered {_ id s} _ h hs := h.replace (s := s.countTranslation true) (h.streams id s hs)
  missed _ h hs := h.missed hs
  remembered _ h hs hr := h.remember hp (h.walk hp hs hr)

namespace Within

variable {c c' : Controller}

/-! ## Steps -/

/-- Under a new configuration tables stay, and the cache is emptied if the rules changed. -/
theorem adopt (h : c.TablesWithin p) {new : Configuration}
    (hcached : rulesChanged c.config new = false → ∀ e ∈ c.tlb.entries, p e.physical)
    (events : Queue Event) (commands : Queue Command) (pageRequests : Queue PageRequest) :
    (c.adopt new events commands pageRequests).Within p := by
  have htables : (c.adopt new events commands pageRequests).TablesWithin p :=
    h.mapStreams (f := fun s => s.setLimits (limitsOf new)) (fun _ => rfl) rfl rfl
  refine ⟨htables, fun e he => ?_⟩
  obtain ⟨hmem, hrules⟩ := mem_adopt he
  exact hcached hrules e hmem

/-- An operation brings no frame but those of the mappings it writes. -/
theorem step (h : c.Within p) (hp : OfPage p) (hw : c.WellFormed) {op : Op}
    (hwrite : (c.step op).2.isOk = true → ∀ m ∈ op.mappings, p m.physical) :
    (c.step op).1.Within p := by
  cases op with
  | configure id config =>
    refine settle_preserves h fun c' hc => ?_
    obtain ⟨s, hs, -, rfl⟩ | ⟨-, -, s, hs, rfl⟩ := configure_eq_ok hc
    · refine h.setStream (s := { s with config }) (h.streams id s hs) rfl rfl fun e he => ?_
      exact ((Tlb.mem_invalidateStream hw.indexed).1 he).1
    · exact h.replace (Stream.within_of_pasids_eq_empty (Stream.create_eq_ok hs).2.2.2.2)
  | removeStream id =>
    refine settle_preserves h fun c' hc => ?_
    obtain ⟨s, -, rfl⟩ := removeStream_eq_ok hc
    refine ⟨⟨fun id' s' hs' => ?_, h.shared⟩, fun e he => ?_⟩
    · have herase : (c.streams.erase id)[id']? = some s' := hs'
      rw [Std.ExtTreeMap.getElem?_erase] at herase
      split at herase
      · cases herase
      · exact h.streams id' s' herase
    · exact h.cached e ((Tlb.mem_invalidateStream hw.indexed).1 he).1
  | enable id =>
    refine settle_preserves h fun c' hc => ?_
    obtain ⟨s, hs, rfl⟩ := enable_eq_ok hc
    exact h.replace (s := s.setEnabled true) (h.streams id s hs)
  | disable id =>
    refine settle_preserves h fun c' hc => ?_
    obtain ⟨s, hs, rfl⟩ := disable_eq_ok hc
    refine h.setStream (s := s.setEnabled false) (h.streams id s hs) rfl rfl fun e he => ?_
    exact ((Tlb.mem_invalidateStream hw.indexed).1 he).1
  | setFaultMode mode =>
    refine ⟨h.mapStreams (f := fun s => s.setFaultMode mode) (fun _ => rfl) rfl rfl, ?_⟩
    exact h.cached
  | attachTable id table =>
    refine settle_preserves h fun c' hc => ?_
    obtain ⟨s, hs, rfl⟩ := attachTable_eq_ok hc
    refine h.setStream (s := s.attachTable table) (h.streams id s hs) rfl rfl fun e he => ?_
    exact ((Tlb.mem_invalidateStream hw.indexed).1 he).1
  | attachLog id log =>
    refine settle_preserves h fun c' hc => ?_
    obtain ⟨s, hs, rfl⟩ := attachLog_eq_ok hc
    exact h.replace (s := s.attachLog log) (h.streams id s hs)
  | createPasid id pasid =>
    refine settle_preserves h fun c' hc => ?_
    obtain ⟨s, s', hs, hpasid, rfl⟩ := createPasid_eq_ok hc
    exact h.replace ((h.streams id s hs).createPasid hpasid)
  | removePasid id pasid =>
    refine settle_preserves h fun c' hc => ?_
    obtain ⟨s, hs, rfl⟩ := removePasid_eq_ok hc
    refine h.setStream ((h.streams id s hs).erasePasid pasid) rfl rfl fun e he => ?_
    exact ((Tlb.mem_invalidatePasid hw.indexed).1 he).1
  | clearPasids id =>
    refine settle_preserves h fun c' hc => ?_
    obtain ⟨s, -, rfl⟩ := clearPasids_eq_ok hc
    have hclear : s.clearPasids.Within p := Stream.within_of_pasids_eq_empty rfl
    refine h.setStream hclear rfl rfl fun e he => ?_
    exact ((Tlb.mem_invalidateStream hw.indexed).1 he).1
  | map id pasid m =>
    refine settle_preserves h fun c' hc => ?_
    have hm : p m.physical := hwrite (isOk_settle.2 ⟨c', hc⟩) m List.mem_cons_self
    obtain ⟨s, t, hs, -, ht, rfl⟩ := map_eq_ok hc
    have htable : (t.map m).Within p := (h.streams id s hs pasid t ht).map hp hm
    refine h.setStream ((h.streams id s hs).setPasidTable htable pasid) rfl rfl fun e he => ?_
    exact ((Tlb.mem_invalidateRange hw.indexed).1 he).1
  | unmap id pasid a =>
    refine settleFlag_preserves h fun c' b hc => ?_
    obtain ⟨s, t, hs, ht, rfl⟩ := unmap_eq_ok hc
    have htable : (t.unmap a).Within p := (h.streams id s hs pasid t ht).unmap a
    refine h.setStream ((h.streams id s hs).setPasidTable htable pasid) rfl rfl fun e he => ?_
    exact ((Tlb.mem_invalidateRange hw.indexed).1 he).1
  | mapPages id pasid ms =>
    refine settle_preserves h fun c' hc => ?_
    have hms : ∀ m ∈ ms, p m.physical := hwrite (isOk_settle.2 ⟨c', hc⟩)
    obtain ⟨s, t, hs, -, ht, rfl⟩ := mapPages_eq_ok hc
    have htable : (ms.foldl PageTable.map t).Within p :=
      (h.streams id s hs pasid t ht).foldl_map hp ms hms
    refine h.setStream ((h.streams id s hs).setPasidTable htable pasid) rfl rfl fun e he => ?_
    exact ((Tlb.mem_invalidatePasid hw.indexed).1 he).1
  | unmapPages id pasid as =>
    refine settle_preserves h fun c' hc => ?_
    obtain ⟨s, t, hs, ht, rfl⟩ := unmapPages_eq_ok hc
    have htable : (as.foldl PageTable.unmap t).Within p :=
      (h.streams id s hs pasid t ht).foldl_unmap as
    refine h.setStream ((h.streams id s hs).setPasidTable htable pasid) rfl rfl fun e he => ?_
    exact ((Tlb.mem_invalidatePasid hw.indexed).1 he).1
  | editTable id change =>
    rw [isOk_editTable] at hwrite
    refine settleFlag_preserves h fun c' b hc => ?_
    obtain rfl := editTable_eq_ok hc
    refine ⟨⟨h.streams, fun tid => ?_⟩, h.cached⟩
    rw [Resources.table_setTable]
    split
    · exact (h.shared id).edit hp hwrite
    · exact h.shared tid
  | translate t => exact (kept_within hp).translate hw h t
  | submitCommand cmd => exact h.congr (core_submitCommand c cmd)
  | processCommands => exact (kept_within hp).processCommands hw h
  | clearCommands => exact h.congr (core_clearCommands c)
  | submitPageRequest r => exact h.congr (core_submitPageRequest c r)
  | processPageRequests => exact h.congr (core_processPageRequests c)
  | clearPageRequests => exact h.congr (core_clearPageRequests c)
  | processEvents => exact h.congr (core_processEvents c)
  | clearEvents => exact h.congr (core_clearEvents c)
  | addSink s => exact h.congr (core_addSink c s)
  | invalidateAll => exact h.shrink rfl rfl fun e he => by cases he
  | invalidateStream id =>
    exact h.shrink rfl rfl fun e he => ((Tlb.mem_invalidateStream hw.indexed).1 he).1
  | invalidatePasid id pasid =>
    exact h.shrink rfl rfl fun e he => ((Tlb.mem_invalidatePasid hw.indexed).1 he).1
  | enableCaching enabled =>
    cases enabled with
    | true => exact h.shrink rfl rfl fun e he => he
    | false => exact h.shrink rfl rfl fun e he => by cases he
  | updateConfiguration new found =>
    refine settle_preserves h fun c' hc => ?_
    obtain ⟨-, events, commands, pageRequests, -, -, -, rfl⟩ := updateConfiguration_eq_ok hc
    exact adopt h.toTablesWithin (fun _ => h.cached) events commands pageRequests
  | resetStatistics =>
    refine ⟨h.mapStreams (f := Stream.resetStatistics) (fun _ => rfl) rfl rfl, ?_⟩
    exact h.cached
  | reset =>
    -- no stream is left; the shared tables are not the controller's to drop
    refine ⟨⟨fun id s hs => ?_, h.shared⟩, fun e he => by cases he⟩
    simp [Controller.step, Controller.reset, Controller.resetStatistics,
      Controller.mapStreams] at hs
  | elapse ns => exact h.congr (core_elapse c ns)

end Within

end Controller

end Iommu
