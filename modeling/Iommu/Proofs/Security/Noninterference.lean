/-
  What is mapped under Secure or Realm does not show in NonSecure.

  Two runs are `Paired` when they perform the same operations from states of their own, but for the
  address and the permissions of the Secure and Realm mappings they make.  These differences do spread:
  a Secure translation may succeed in one run and fault in the other, and from there on fault logs,
  queues, stalls and the cache differ, and how far the queued commands get.  None of that reaches a
  NonSecure transaction.

  The invariant of the two runs is that they look alike through the veil: with the address and the
  permissions of every Secure and Realm page blanked out, their tables are equal (`Agree`).  Calls to
  translate, commands and queues write no table, so they keep it whatever they do (`seen_step`); an
  operation on streams or tables does under the veil the same in both runs (`step_alike`), two
  mappings that differ in secrets included (`step_of_alike`).  The cache is coherent in each run for
  itself.  Hence every NonSecure call is answered in each as by its tables, and alike by both
  (`nonSecure_noninterference`).
-/
import Mathlib.Data.List.Forall2
import Iommu.Proofs.Controller.Reach
import Iommu.Proofs.Security.Veil

namespace Iommu

/-- Two requests to map a page that differ in its address and permissions at most, and in nothing if the
    page is NonSecure. -/
structure Mapping.Alike (m m' : Mapping) : Prop where
  input : m.input = m'.input
  security : m.security = m'.security
  same : m.security = .nonSecure → m = m'

/-- Two changes to a table whose mappings are alike. -/
inductive PageTable.Op.Alike : PageTable.Op → PageTable.Op → Prop
  | same (op : PageTable.Op) : Alike op op
  | map {m m' : Mapping} : m.Alike m' → Alike (.map m) (.map m')
  | mapPages {ms ms' : List Mapping} : List.Forall₂ Mapping.Alike ms ms' →
      Alike (.mapPages ms) (.mapPages ms')

namespace Controller

/-- Two operations whose mappings are alike. -/
inductive Op.Alike : Op → Op → Prop
  | same (op : Op) : Alike op op
  | map {id : StreamId} {pasid : Pasid} {m m' : Mapping} : m.Alike m' →
      Alike (.map id pasid m) (.map id pasid m')
  | mapPages {id : StreamId} {pasid : Pasid} {ms ms' : List Mapping} :
      List.Forall₂ Mapping.Alike ms ms' → Alike (.mapPages id pasid ms) (.mapPages id pasid ms')
  | editTable {table : TableId} {change change' : PageTable.Op} : change.Alike change' →
      Alike (.editTable table change) (.editTable table change')

/-- A shared table is changed only while it is attached to no stream. -/
def EditsDetached (c : Controller) (op : Op) : Prop :=
  ∀ table change, op = .editTable table change →
    ∀ (id : StreamId) (s : Stream), c.streams[id]? = some s → s.table ≠ some table

/-- Two runs of the same operations, which may differ in what they map under Secure and Realm.  Where
    they do, the mapping is accepted in both or in neither; the configuration stays, and shared tables
    are changed only while detached. -/
inductive Paired : Controller → Controller → List Op → List Op → Prop
  | nil (c c' : Controller) : Paired c c' [] []
  | cons {c c' : Controller} {op op' : Op} {ops ops' : List Op} : op.Alike op' →
      (op ≠ op' → (c.step op).2.isOk = (c'.step op').2.isOk) →
      (∀ new found, op ≠ .updateConfiguration new found) → c.EditsDetached op →
      Paired (c.step op).1 (c'.step op').1 ops ops' → Paired c c' (op :: ops) (op' :: ops')

end Controller

/-! ## Alike under the veil -/

/-- Results that `v` shows alike fail alike, or succeed with what `v` shows alike. -/
theorem eq_cases_of_map_eq {ε σ τ : Type} {v : σ → τ} {x x' : Except ε σ} (h : x.map v = x'.map v) :
    (∃ e, x = .error e ∧ x' = .error e) ∨ ∃ s s', x = .ok s ∧ x' = .ok s' ∧ v s = v s' := by
  cases x with
  | error e =>
    cases x' with
    | error e' =>
      obtain rfl := Except.error.inj h
      exact Or.inl ⟨e, rfl, rfl⟩
    | ok s' => cases h
  | ok s =>
    cases x' with
    | error e' => cases h
    | ok s' => exact Or.inr ⟨s, s', rfl, rfl, Except.ok.inj h⟩

/-- Two computations with a stream that agree under the veil go on to agree. -/
theorem withStream_alike {α β : Type} {f : α → β} {x x' : Except Error Stream}
    (h : x.map (Stream.seen .veil) = x'.map (Stream.seen .veil)) {g g' : Stream → Except Error α}
    (hg : ∀ s s' : Stream, s.seen .veil = s'.seen .veil → (g s).map f = (g' s').map f) :
    Except.map f (match x with | .error e => .error e | .ok s => g s) =
      Except.map f (match x' with | .error e => .error e | .ok s => g' s) := by
  obtain ⟨e, rfl, rfl⟩ | ⟨s, s', rfl, rfl, hs⟩ := eq_cases_of_map_eq h
  · rfl
  · exact hg s s' hs

/-- Likewise with a table. -/
theorem withTable_alike {α β : Type} {f : α → β} {x x' : Except Error PageTable}
    (h : x.map (PageTable.seen .veil) = x'.map (PageTable.seen .veil))
    {g g' : PageTable → Except Error α}
    (hg : ∀ t t' : PageTable, t.seen .veil = t'.seen .veil → (g t).map f = (g' t').map f) :
    Except.map f (match x with | .error e => .error e | .ok t => g t) =
      Except.map f (match x' with | .error e => .error e | .ok t => g' t) := by
  obtain ⟨e, rfl, rfl⟩ | ⟨t, t', rfl, rfl, ht⟩ := eq_cases_of_map_eq h
  · rfl
  · exact hg t t' ht

theorem Mapping.Alike.page {m m' : Mapping} (h : m.Alike m') : m.page = m'.page :=
  congrArg pageBase h.input

theorem Mapping.Alike.veil {m m' : Mapping} (h : m.Alike m') : m.entry.veil = m'.entry.veil := by
  by_cases hopen : m.security = .nonSecure
  · rw [h.same hopen]
  · have hclosed : m.entry.security ≠ .nonSecure := hopen
    have hclosed' : m'.entry.security ≠ .nonSecure := fun h' => hopen (h.security.trans h')
    rw [PageEntry.veil, PageEntry.veil, if_neg hclosed, if_neg hclosed']
    show (⟨0, .empty, m.security, true⟩ : PageEntry) = ⟨0, .empty, m'.security, true⟩
    rw [h.security]

theorem Mapping.Alike.refl (m : Mapping) : m.Alike m := ⟨rfl, rfl, fun _ => rfl⟩

theorem Mapping.alikes_refl (ms : List Mapping) : List.Forall₂ Mapping.Alike ms ms :=
  List.forall₂_same.2 fun m _ => .refl m

namespace PageTable

variable {t t' : PageTable}

/-- Alike mappings into tables that look alike give tables that look alike. -/
theorem seen_map_alike (h : t.seen .veil = t'.seen .veil) {m m' : Mapping} (hm : m.Alike m') :
    (t.map m).seen .veil = (t'.map m').seen .veil := by
  rw [seen_map, seen_map, h, hm.page, hm.veil]

/-- So do lists of alike mappings. -/
theorem seen_foldl_map_alike {ms ms' : List Mapping} (hms : List.Forall₂ Mapping.Alike ms ms') :
    ∀ {t t' : PageTable}, t.seen .veil = t'.seen .veil →
      (ms.foldl map t).seen .veil = (ms'.foldl map t').seen .veil := by
  induction hms with
  | nil => exact id
  | cons hm _ ih => exact fun h => ih (seen_map_alike h hm)

theorem pages_alike {ms ms' : List Mapping} (hms : List.Forall₂ Mapping.Alike ms ms') :
    ms.map Mapping.page = ms'.map Mapping.page := by
  induction hms with
  | nil => rfl
  | cons hm _ ih => rw [List.map_cons, List.map_cons, hm.page, ih]

/-- Whether a list is refused is decided by its pages. -/
theorem mapPages_alike (h : t.seen .veil = t'.seen .veil) {ms ms' : List Mapping}
    (hms : List.Forall₂ Mapping.Alike ms ms') :
    (t.mapPages ms).map (seen .veil) = (t'.mapPages ms').map (seen .veil) := by
  rw [mapPages, mapPages, pages_alike hms]
  split
  · rfl
  · exact congrArg Except.ok (seen_foldl_map_alike hms h)

/-- Tables that look alike map the same pages. -/
theorem isMapped_alike (h : t.seen .veil = t'.seen .veil) (a : UInt64) :
    t.isMapped a = t'.isMapped a := by
  rw [← isMapped_seen (f := .veil), h, isMapped_seen]

theorem seen_unmap_alike (h : t.seen .veil = t'.seen .veil) (a : UInt64) :
    (t.unmap a).seen .veil = (t'.unmap a).seen .veil := by
  rw [seen_unmap, h, ← seen_unmap]

theorem unmapPages_alike (h : t.seen .veil = t'.seen .veil) (as : List UInt64) :
    (t.unmapPages as).map (seen .veil) = (t'.unmapPages as).map (seen .veil) := by
  have hmapped : t.isMapped = t'.isMapped := funext fun a => isMapped_alike h a
  rw [unmapPages, unmapPages, hmapped]
  split
  · rfl
  · refine congrArg Except.ok ?_
    rw [seen_foldl_unmap, h, seen_foldl_unmap]

/-- Alike table operations have alike results, refusals included. -/
theorem step_alike (h : t.seen .veil = t'.seen .veil) {op op' : Op} (hop : op.Alike op') :
    ((t.step op).map fun x => (x.1.seen .veil, x.2)) =
      (t'.step op').map fun x => (x.1.seen .veil, x.2) := by
  have hflag : ∀ x x' : Except Error PageTable, x.map (seen .veil) = x'.map (seen .veil) →
      ((x.map (·, true)).map fun x => (x.1.seen .veil, x.2)) =
        (x'.map (·, true)).map fun x => (x.1.seen .veil, x.2) := by
    intro x x' hx
    obtain ⟨e, rfl, rfl⟩ | ⟨t, t', rfl, rfl, ht⟩ := eq_cases_of_map_eq hx
    · rfl
    · exact congrArg (fun t => Except.ok (t, true)) ht
  cases hop with
  | same op =>
    cases op with
    | map m => exact congrArg (fun t => Except.ok (t, true)) (seen_map_alike h (.refl m))
    | unmap a =>
      exact congrArg Except.ok (Prod.ext (seen_unmap_alike h a) (isMapped_alike h a))
    | mapPages ms => exact hflag _ _ (mapPages_alike h (Mapping.alikes_refl ms))
    | unmapPages as => exact hflag _ _ (unmapPages_alike h as)
    | clear => rfl
  | map hm => exact congrArg (fun t => Except.ok (t, true)) (seen_map_alike h hm)
  | mapPages hms => exact hflag _ _ (mapPages_alike h hms)

end PageTable

namespace Stream

variable {s s' : Stream}

theorem checkWidths_alike (h : s.seen .veil = s'.seen .veil) (m : Mapping) :
    s.checkWidths m = s'.checkWidths m := by
  have hlimits : (s.seen .veil).limits = (s'.seen .veil).limits := by rw [h]
  rw [checkWidths, checkWidths, show s.limits = s'.limits from hlimits]

theorem checkAllWidths_alike (h : s.seen .veil = s'.seen .veil) (ms : List Mapping) :
    s.checkAllWidths ms = s'.checkAllWidths ms := by
  induction ms with
  | nil => rfl
  | cons m ms ih => rw [checkAllWidths, checkAllWidths, checkWidths_alike h, ih]

/-- Streams that look alike have tables that look alike. -/
theorem pasidTable_alike (h : s.seen .veil = s'.seen .veil) (pasid : Pasid) :
    (s.pasidTable pasid).map (PageTable.seen .veil) =
      (s'.pasidTable pasid).map (PageTable.seen .veil) := by
  rw [← pasidTable_seen, h, pasidTable_seen]

theorem setPasidTable_alike (h : s.seen .veil = s'.seen .veil) (pasid : Pasid) {t t' : PageTable}
    (ht : t.seen .veil = t'.seen .veil) :
    (s.setPasidTable pasid t).seen .veil = (s'.setPasidTable pasid t').seen .veil := by
  rw [seen_setPasidTable, h, ht, ← seen_setPasidTable]

/-- A stream maps alike mappings alike. -/
theorem map_alike (h : s.seen .veil = s'.seen .veil) (pasid : Pasid) (m : Mapping) :
    (s.map pasid m).map (seen .veil) = (s'.map pasid m).map (seen .veil) := by
  rw [map, map, checkWidths_alike h]
  cases s'.checkWidths m with
  | error e => rfl
  | ok _ =>
    refine withTable_alike (pasidTable_alike h pasid) fun t t' ht => ?_
    exact congrArg Except.ok (setPasidTable_alike h pasid (PageTable.seen_map_alike ht (.refl m)))

theorem unmap_alike (h : s.seen .veil = s'.seen .veil) (pasid : Pasid) (a : UInt64) :
    ((s.unmap pasid a).map fun x => (x.1.seen .veil, x.2)) =
      (s'.unmap pasid a).map fun x => (x.1.seen .veil, x.2) := by
  rw [unmap, unmap]
  refine withTable_alike (pasidTable_alike h pasid) fun t t' ht => ?_
  have hwritten := setPasidTable_alike h pasid (PageTable.seen_unmap_alike ht a)
  exact congrArg Except.ok (Prod.ext hwritten (PageTable.isMapped_alike ht a))

theorem mapPages_alike (h : s.seen .veil = s'.seen .veil) (pasid : Pasid) (ms : List Mapping) :
    (s.mapPages pasid ms).map (seen .veil) = (s'.mapPages pasid ms).map (seen .veil) := by
  rw [mapPages, mapPages, checkAllWidths_alike h]
  cases s'.checkAllWidths ms with
  | error e => rfl
  | ok _ =>
    refine withTable_alike (pasidTable_alike h pasid) fun t t' ht => ?_
    refine withTable_alike (PageTable.mapPages_alike ht (Mapping.alikes_refl ms)) fun u u' hu => ?_
    exact congrArg Except.ok (setPasidTable_alike h pasid hu)

theorem unmapPages_alike (h : s.seen .veil = s'.seen .veil) (pasid : Pasid) (as : List UInt64) :
    (s.unmapPages pasid as).map (seen .veil) = (s'.unmapPages pasid as).map (seen .veil) := by
  rw [unmapPages, unmapPages]
  refine withTable_alike (pasidTable_alike h pasid) fun t t' ht => ?_
  refine withTable_alike (PageTable.unmapPages_alike ht as) fun u u' hu => ?_
  exact congrArg Except.ok (setPasidTable_alike h pasid hu)

end Stream

namespace Controller

variable {c c' : Controller}

/-! ## What writes no table -/

/-- A stream is replaced by one with the same tables. -/
theorem seen_replace {f : PageEntry → PageEntry} {id : StreamId} {s : Stream} (hw : c.WellFormed)
    (hs : c.streams[id]? = some s) {s' : Stream} (hseen : s'.seen f = s.seen f) :
    (c.setStream s').seen f = c.seen f := by
  have hid : s.id = id := hw.keyed id s hs
  have hstreams : ((c.seen f).setStream (s.seen f)).streams = (c.seen f).streams := by
    refine Std.ExtTreeMap.ext_getElem? fun i => ?_
    rw [getElem?_setStream, getElem?_seen]
    split
    · rename_i hi
      rw [← hi, show (s.seen f).id = id from hid, hs]
      rfl
    · rfl
  rw [seen_setStream, hseen]
  exact congrArg (fun streams => { c.seen f with streams }) hstreams

theorem seen_of_core {f : PageEntry → PageEntry} (hcore : c'.core = c.core) :
    c'.seen f = c.seen f := by
  have hconfig : c'.config = c.config := congrArg Core.config hcore
  have hstreams : c'.streams = c.streams := congrArg Core.streams hcore
  have hresources : c'.resources = c.resources := congrArg Core.resources hcore
  rw [seen, seen, hconfig, hstreams, hresources]

/-- Calls to translate and commands write no table. -/
theorem kept_seen (f : PageEntry → PageEntry) (d : Controller) : Kept fun c => c.seen f = d where
  congr h hcore := (seen_of_core hcore).trans h
  drop _ h _ := h
  answered {c id s} hw h hs := by
    have hcounted : (s.countTranslation true).seen f = s.seen f := rfl
    exact (seen_replace hw hs hcounted).trans h
  missed {c id s} hw h hs t x := by
    have hset : (c.setStream ((s.countTranslation false).recordFault c.resources c.clock t x).1).seen
        f = c.seen f := seen_replace hw hs rfl
    have hrecord : (c.missed s t x).resources.seen f = c.resources.seen f :=
      Resources.seen_record ..
    refine Eq.trans ?_ (hset.trans h)
    exact congrArg (fun resources => { (c.setStream ((s.countTranslation false).recordFault
      c.resources c.clock t x).1).seen f with resources }) hrecord
  remembered _ h _ _ _ := by
    rw [remember_eq]
    exact h

/-- Operations that write neither streams nor tables. -/
def Op.leavesTables : Op → Bool
  | .translate _ => true
  | .submitCommand _ => true
  | .processCommands => true
  | .clearCommands => true
  | .submitPageRequest _ => true
  | .processPageRequests => true
  | .clearPageRequests => true
  | .processEvents => true
  | .clearEvents => true
  | .addSink _ => true
  | .invalidateAll => true
  | .invalidateStream _ => true
  | .invalidatePasid _ _ => true
  | .enableCaching _ => true
  | .elapse _ => true
  | _ => false

/-- An operation that leaves the tables leaves what is seen of them. -/
theorem seen_step {f : PageEntry → PageEntry} (hw : c.WellFormed) {op : Op}
    (hop : op.leavesTables = true) : (c.step op).1.seen f = c.seen f := by
  cases op with
  | translate t => exact (kept_seen f _).translate hw rfl t
  | submitCommand cmd => exact seen_of_core (core_submitCommand c cmd)
  | processCommands => exact (kept_seen f _).processCommands hw rfl
  | clearCommands => exact seen_of_core (core_clearCommands c)
  | submitPageRequest r => exact seen_of_core (core_submitPageRequest c r)
  | processPageRequests => exact seen_of_core (core_processPageRequests c)
  | clearPageRequests => exact seen_of_core (core_clearPageRequests c)
  | processEvents => exact seen_of_core (core_processEvents c)
  | clearEvents => exact seen_of_core (core_clearEvents c)
  | addSink s => exact seen_of_core (core_addSink c s)
  | invalidateAll => rfl
  | invalidateStream id => rfl
  | invalidatePasid id pasid => rfl
  | enableCaching enabled => cases enabled <;> rfl
  | elapse ns => exact seen_of_core (core_elapse c ns)
  | _ => cases hop

/-! ## What does the same under the veil -/

/-- A stream is configured in both states or in neither. -/
theorem streams_alike (h : c.seen .veil = c'.seen .veil) (id : StreamId) :
    (c.streams[id]? = none ∧ c'.streams[id]? = none) ∨ ∃ s s', c.streams[id]? = some s ∧
      c'.streams[id]? = some s' ∧ s.seen .veil = s'.seen .veil := by
  have hseen : c.streams[id]?.map (Stream.seen .veil) = c'.streams[id]?.map (Stream.seen .veil) := by
    rw [← getElem?_seen, h, getElem?_seen]
  cases hs : c.streams[id]? with
  | none =>
    rw [hs] at hseen
    exact Or.inl ⟨rfl, Option.map_eq_none_iff.1 hseen.symm⟩
  | some s =>
    rw [hs] at hseen
    obtain ⟨s', hs', heq⟩ := Option.map_eq_some_iff.1 hseen.symm
    exact Or.inr ⟨s, s', rfl, hs', heq.symm⟩

theorem stream_alike (h : c.seen .veil = c'.seen .veil) (id : StreamId) :
    (c.stream id).map (Stream.seen .veil) = (c'.stream id).map (Stream.seen .veil) := by
  rw [stream, stream]
  rcases streams_alike h id with ⟨hs, hs'⟩ | ⟨s, s', hs, hs', heq⟩
  · rw [hs, hs']
  · rw [hs, hs']
    exact congrArg Except.ok heq

theorem table_alike (h : c.seen .veil = c'.seen .veil) (id : TableId) :
    (c.resources.table id).seen .veil = (c'.resources.table id).seen .veil := by
  have hresources : c.resources.seen .veil = c'.resources.seen .veil :=
    congrArg Controller.resources h
  rw [← Resources.table_seen, hresources, Resources.table_seen]

theorem setStream_alike (h : c.seen .veil = c'.seen .veil) {s s' : Stream}
    (hs : s.seen .veil = s'.seen .veil) :
    (c.setStream s).seen .veil = (c'.setStream s').seen .veil := by
  rw [seen_setStream, h, hs, ← seen_setStream]

theorem mapStreams_alike (h : c.seen .veil = c'.seen .veil) {g : Stream → Stream}
    (hg : ∀ s, (g s).seen .veil = g (s.seen .veil)) :
    (c.mapStreams g).seen .veil = (c'.mapStreams g).seen .veil := by
  rw [seen_mapStreams c hg, h, ← seen_mapStreams c' hg]

/-- Settling alike results keeps the controllers alike. -/
theorem settle_alike (h : c.seen .veil = c'.seen .veil) {r r' : Except Error Controller}
    (hr : r.map (seen .veil) = r'.map (seen .veil)) :
    (c.settle r).1.seen .veil = (c'.settle r').1.seen .veil := by
  cases r with
  | error e =>
    cases r' with
    | error e' => exact h
    | ok d' => cases hr
  | ok d =>
    cases r' with
    | error e' => cases hr
    | ok d' => exact Except.ok.inj hr

theorem settleFlag_alike (h : c.seen .veil = c'.seen .veil)
    {r r' : Except Error (Controller × Bool)}
    (hr : (r.map fun x => (x.1.seen .veil, x.2)) = r'.map fun x => (x.1.seen .veil, x.2)) :
    (c.settleFlag r).1.seen .veil = (c'.settleFlag r').1.seen .veil := by
  cases r with
  | error e =>
    cases r' with
    | error e' => exact h
    | ok d' => cases hr
  | ok d =>
    cases r' with
    | error e' => cases hr
    | ok d' => exact (Prod.mk.inj (Except.ok.inj hr)).1

theorem configure_alike (h : c.seen .veil = c'.seen .veil) (id : StreamId) (config : StreamConfig) :
    (c.configure id config).map (seen .veil) = (c'.configure id config).map (seen .veil) := by
  have hwidths : c.config.widths = c'.config.widths := congrArg (fun d => d.config.widths) h
  have hlimits : limitsOf c.config = limitsOf c'.config := congrArg (fun d => limitsOf d.config) h
  have hcount : c.streamCount = c'.streamCount := by
    have hsize : ∀ d : Controller, (d.seen .veil).streamCount = d.streamCount :=
      fun _ => Std.ExtTreeMap.size_map
    rw [← hsize, h, hsize]
  rw [configure, configure]
  rcases streams_alike h id with ⟨hs, hs'⟩ | ⟨s, s', hs, hs', heq⟩
  · rw [hs, hs', hwidths, hlimits, hcount]
    dsimp only
    split
    · rfl
    · exact withStream_alike rfl fun u u' hu => congrArg Except.ok (setStream_alike h hu)
  · rw [hs, hs']
    have hconfigured : (s.configure config).map (Stream.seen .veil) =
        (s'.configure config).map (Stream.seen .veil) := by
      rw [Stream.seen_configure, heq, Stream.seen_configure]
    exact withStream_alike hconfigured fun u u' hu => congrArg Except.ok (setStream_alike h hu)

/-- Alike edits of a shared table have alike results. -/
theorem editTable_alike (h : c.seen .veil = c'.seen .veil) (id : TableId)
    {change change' : PageTable.Op} (hop : change.Alike change') :
    ((c.editTable id change).map fun x => (x.1.seen .veil, x.2)) =
      (c'.editTable id change').map fun x => (x.1.seen .veil, x.2) := by
  rw [editTable, editTable]
  rcases eq_cases_of_map_eq (PageTable.step_alike (table_alike h id) hop) with
    ⟨e, he, he'⟩ | ⟨⟨t, b⟩, ⟨t', b'⟩, ht, ht', heq⟩
  · rw [he, he']
  · obtain ⟨hseen, rfl⟩ := Prod.mk.inj heq
    have hset : ({ c with resources := c.resources.setTable id t } : Controller).seen .veil =
        ({ c' with resources := c'.resources.setTable id t' } : Controller).seen .veil := by
      rw [seen_setTable, h, show t.seen .veil = t'.seen .veil from hseen, ← seen_setTable]
    rw [ht, ht']
    exact congrArg (fun d => Except.ok (d, b)) hset

theorem seen_reset (f : PageEntry → PageEntry) (c : Controller) :
    c.reset.seen f = { c.seen f with streams := ∅ } := by
  have hstreams : (c.reset.seen f).streams = ∅ := by
    refine Std.ExtTreeMap.ext_getElem? fun id => ?_
    rw [getElem?_seen, reset, resetStatistics, getElem?_mapStreams]
    simp
  exact congrArg (fun streams => { c.seen f with streams }) hstreams

/-- An operation does the same under the veil. -/
theorem step_alike (h : c.seen .veil = c'.seen .veil) (hw : c.WellFormed) (hw' : c'.WellFormed)
    {op : Op} (hupdate : ∀ new found, op ≠ .updateConfiguration new found) :
    (c.step op).1.seen .veil = (c'.step op).1.seen .veil := by
  have hset : ∀ s s' : Stream, s.seen .veil = s'.seen .veil →
      (c.setStream s).seen .veil = (c'.setStream s').seen .veil := fun _ _ => setStream_alike h
  cases hop : op.leavesTables with
  | true => rw [seen_step hw hop, seen_step hw' hop, h]
  | false =>
    cases op with
    | configure id config => exact settle_alike h (configure_alike h id config)
    | removeStream id =>
      refine settle_alike h (withStream_alike (stream_alike h id) fun s s' _ => ?_)
      have herased : ({ c with streams := c.streams.erase id } : Controller).seen .veil =
          ({ c' with streams := c'.streams.erase id } : Controller).seen .veil := by
        rw [seen_eraseStream, h, ← seen_eraseStream]
      exact congrArg Except.ok herased
    | enable id =>
      refine settle_alike h (withStream_alike (stream_alike h id) fun s s' hs => ?_)
      have hwritten := hset (s.setEnabled true) (s'.setEnabled true)
        (congrArg (Stream.setEnabled · true) hs)
      exact congrArg Except.ok hwritten
    | disable id =>
      refine settle_alike h (withStream_alike (stream_alike h id) fun s s' hs => ?_)
      have hwritten := hset (s.setEnabled false) (s'.setEnabled false)
        (congrArg (Stream.setEnabled · false) hs)
      exact congrArg Except.ok hwritten
    | setFaultMode mode =>
      exact mapStreams_alike h (g := (Stream.setFaultMode · mode)) fun _ => rfl
    | attachTable id table =>
      refine settle_alike h (withStream_alike (stream_alike h id) fun s s' hs => ?_)
      have hwritten := hset (s.attachTable table) (s'.attachTable table)
        (congrArg (Stream.attachTable · table) hs)
      exact congrArg Except.ok hwritten
    | attachLog id log =>
      refine settle_alike h (withStream_alike (stream_alike h id) fun s s' hs => ?_)
      have hwritten := hset (s.attachLog log) (s'.attachLog log) (congrArg (Stream.attachLog · log) hs)
      exact congrArg Except.ok hwritten
    | createPasid id pasid =>
      refine settle_alike h (withStream_alike (stream_alike h id) fun s s' hs => ?_)
      have hcreated : (s.createPasid pasid).map (Stream.seen .veil) =
          (s'.createPasid pasid).map (Stream.seen .veil) := by
        rw [Stream.seen_createPasid, hs, Stream.seen_createPasid]
      exact withStream_alike hcreated fun u u' hu => congrArg Except.ok (hset u u' hu)
    | removePasid id pasid =>
      refine settle_alike h (withStream_alike (stream_alike h id) fun s s' hs => ?_)
      have hremoved : (s.removePasid pasid).map (Stream.seen .veil) =
          (s'.removePasid pasid).map (Stream.seen .veil) := by
        rw [Stream.seen_removePasid, hs, Stream.seen_removePasid]
      exact withStream_alike hremoved fun u u' hu => congrArg Except.ok (hset u u' hu)
    | clearPasids id =>
      refine settle_alike h (withStream_alike (stream_alike h id) fun s s' hs => ?_)
      have hcleared : s.clearPasids.seen .veil = s'.clearPasids.seen .veil := by
        rw [Stream.seen_clearPasids, hs, Stream.seen_clearPasids]
      exact congrArg Except.ok (hset s.clearPasids s'.clearPasids hcleared)
    | map id pasid m =>
      refine settle_alike h (withStream_alike (stream_alike h id) fun s s' hs => ?_)
      exact withStream_alike (Stream.map_alike hs pasid m) fun u u' hu =>
        congrArg Except.ok (hset u u' hu)
    | unmap id pasid a =>
      refine settleFlag_alike h (withStream_alike (stream_alike h id) fun s s' hs => ?_)
      rcases eq_cases_of_map_eq (Stream.unmap_alike hs pasid a) with
        ⟨e, he, he'⟩ | ⟨⟨u, b⟩, ⟨u', b'⟩, hu, hu', heq⟩
      · rw [he, he']
      · obtain ⟨hu'', rfl⟩ := Prod.mk.inj heq
        rw [hu, hu']
        exact congrArg (fun d => Except.ok (d, b)) (hset u u' hu'')
    | mapPages id pasid ms =>
      refine settle_alike h (withStream_alike (stream_alike h id) fun s s' hs => ?_)
      exact withStream_alike (Stream.mapPages_alike hs pasid ms) fun u u' hu =>
        congrArg Except.ok (hset u u' hu)
    | unmapPages id pasid as =>
      refine settle_alike h (withStream_alike (stream_alike h id) fun s s' hs => ?_)
      exact withStream_alike (Stream.unmapPages_alike hs pasid as) fun u u' hu =>
        congrArg Except.ok (hset u u' hu)
    | editTable table change => exact settleFlag_alike h (editTable_alike h table (.same change))
    | updateConfiguration new found => exact absurd rfl (hupdate new found)
    | resetStatistics =>
      exact mapStreams_alike h (g := Stream.resetStatistics) fun _ => rfl
    | reset =>
      show c.reset.seen .veil = c'.reset.seen .veil
      rw [seen_reset, h, ← seen_reset]
    | _ => cases hop

/-! ## What differs under Secure and Realm -/

/-- Results accepted or refused together look alike when the accepted states do. -/
theorem settle_accepted (h : c.seen .veil = c'.seen .veil) {r r' : Except Error Controller}
    (hok : (c.settle r).2.isOk = (c'.settle r').2.isOk)
    (hr : ∀ d d', r = .ok d → r' = .ok d' → d.seen .veil = d'.seen .veil) :
    (c.settle r).1.seen .veil = (c'.settle r').1.seen .veil := by
  cases r with
  | error e =>
    cases r' with
    | error e' => exact h
    | ok d' => cases hok
  | ok d =>
    cases r' with
    | error e' => cases hok
    | ok d' => exact hr d d' rfl rfl

/-- The table of a PASID is written in both runs, each time with what the veil shows alike. -/
theorem rewritten_alike (h : c.seen .veil = c'.seen .veil) {id : StreamId} {pasid : Pasid}
    {s s' : Stream} (hs : c.streams[id]? = some s) (hs' : c'.streams[id]? = some s')
    {t t' : PageTable} (ht : s.pasids[pasid]? = some t) (ht' : s'.pasids[pasid]? = some t')
    (g g' : PageTable → PageTable)
    (hg : ∀ u u' : PageTable, u.seen .veil = u'.seen .veil → (g u).seen .veil = (g' u').seen .veil) :
    (c.setStream (s.setPasidTable pasid (g t))).seen .veil =
      (c'.setStream (s'.setPasidTable pasid (g' t'))).seen .veil := by
  have hstream := stream_alike h id
  rw [stream_eq_ok_iff.2 hs, stream_eq_ok_iff.2 hs'] at hstream
  have heq : s.seen .veil = s'.seen .veil := Except.ok.inj hstream
  have htable := Stream.pasidTable_alike heq pasid
  rw [Stream.pasidTable_eq_ok_iff.2 ht, Stream.pasidTable_eq_ok_iff.2 ht'] at htable
  exact setStream_alike h (Stream.setPasidTable_alike heq pasid (hg t t' (Except.ok.inj htable)))

/-- Two operations that differ in secrets do the same under the veil, if both or neither are
    accepted. -/
theorem step_of_alike (h : c.seen .veil = c'.seen .veil) (hw : c.WellFormed) (hw' : c'.WellFormed)
    {op op' : Op} (hop : op.Alike op') (hok : op ≠ op' → (c.step op).2.isOk = (c'.step op').2.isOk)
    (hupdate : ∀ new found, op ≠ .updateConfiguration new found) :
    (c.step op).1.seen .veil = (c'.step op').1.seen .veil := by
  by_cases heq : op = op'
  · subst heq
    exact step_alike h hw hw' hupdate
  · have hok := hok heq
    -- a mapping that is refused writes nothing, so two accepted ones remain to be compared
    cases hop with
    | same op => exact absurd rfl heq
    | @map id pasid m m' hm =>
      have hok : (c.settle (c.map id pasid m)).2.isOk = (c'.settle (c'.map id pasid m')).2.isOk := hok
      show (c.settle (c.map id pasid m)).1.seen .veil = (c'.settle (c'.map id pasid m')).1.seen .veil
      refine settle_accepted h hok fun d d' hd hd' => ?_
      obtain ⟨s, t, hs, -, ht, rfl⟩ := map_eq_ok hd
      obtain ⟨s', t', hs', -, ht', rfl⟩ := map_eq_ok hd'
      exact rewritten_alike h hs hs' ht ht' (·.map m) (·.map m') fun u u' hu =>
        PageTable.seen_map_alike hu hm
    | @mapPages id pasid ms ms' hms =>
      have hok : (c.settle (c.mapPages id pasid ms)).2.isOk =
          (c'.settle (c'.mapPages id pasid ms')).2.isOk := hok
      show (c.settle (c.mapPages id pasid ms)).1.seen .veil =
        (c'.settle (c'.mapPages id pasid ms')).1.seen .veil
      refine settle_accepted h hok fun d d' hd hd' => ?_
      obtain ⟨s, t, hs, -, ht, rfl⟩ := mapPages_eq_ok hd
      obtain ⟨s', t', hs', -, ht', rfl⟩ := mapPages_eq_ok hd'
      exact rewritten_alike h hs hs' ht ht' (ms.foldl PageTable.map ·) (ms'.foldl PageTable.map ·)
        fun u u' hu => PageTable.seen_foldl_map_alike hms hu
    | editTable hchange => exact settleFlag_alike h (editTable_alike h _ hchange)

/-! ## Paired runs -/

/-- Two states whose tables look alike through the veil, each with a cache that answers as its tables
    do. -/
structure Agree (c c' : Controller) : Prop where
  wellFormed : c.WellFormed
  wellFormed' : c'.WellFormed
  coherent : c.Coherent fun _ => false
  coherent' : c'.Coherent fun _ => false
  tables : c.seen .veil = c'.seen .veil

/-- A shared table that is changed while detached is changed so in both states. -/
theorem EditsDetached.alike (h : c.seen .veil = c'.seen .veil) {op op' : Op} (hop : op.Alike op')
    (hdetached : c.EditsDetached op) : c'.EditsDetached op' := by
  intro table change heq id s' hs'
  subst heq
  rcases streams_alike h id with ⟨-, hnone⟩ | ⟨s, u', hs, hu', hseen⟩
  · exact absurd (hs'.symm.trans hnone) nofun
  · obtain rfl := Option.some.inj (hs'.symm.trans hu')
    have htable : (s.seen .veil).table = (s'.seen .veil).table := by rw [hseen]
    rw [← show s.table = s'.table from htable]
    cases hop with
    | same => exact hdetached table change rfl id s hs
    | editTable => exact hdetached table _ rfl id s hs

/-- An operation that edits no attached table keeps the entries of every stream coherent. -/
theorem Coherent.step_detached (h : c.Coherent fun _ => false) (hw : c.WellFormed) {op : Op}
    (hdetached : c.EditsDetached op) : (c.step op).1.Coherent fun _ => false := by
  refine (h.step_rewrites hw op).mono fun id _ => ?_
  rw [Bool.false_or]
  cases op with
  | editTable table change =>
    cases hs : c.streams[id]? with
    | none => simp [rewrites, hs]
    | some s => simp [rewrites, hs, hdetached table change rfl id s hs]
  | _ => rfl

/-- One operation of each run, alike, keeps the two controllers in agreement. -/
theorem Agree.step (h : Agree c c') {op op' : Op} (hop : op.Alike op')
    (hok : op ≠ op' → (c.step op).2.isOk = (c'.step op').2.isOk)
    (hupdate : ∀ new found, op ≠ .updateConfiguration new found) (hdetached : c.EditsDetached op) :
    Agree (c.step op).1 (c'.step op').1 where
  wellFormed := h.wellFormed.step op
  wellFormed' := h.wellFormed'.step op'
  coherent := h.coherent.step_detached h.wellFormed hdetached
  coherent' := h.coherent'.step_detached h.wellFormed' (hdetached.alike h.tables hop)
  tables := step_of_alike h.tables h.wellFormed h.wellFormed' hop hok hupdate

/-- The same operation in both runs keeps them paired. -/
theorem Paired.same {op : Op} {ops ops' : List Op}
    (hupdate : ∀ new found, op ≠ .updateConfiguration new found)
    (hdetached : c.EditsDetached op) (h : Paired (c.step op).1 (c'.step op).1 ops ops') :
    Paired c c' (op :: ops) (op :: ops') :=
  .cons (.same op) (fun hne => absurd rfl hne) hupdate hdetached h

/-- Paired runs agree at every place. -/
theorem Paired.agree {ops ops' : List Op} (h : Paired c c' ops ops') (hagree : Agree c c') (n : Nat) :
    Agree (c.run (ops.take n)).1 (c'.run (ops'.take n)).1 := by
  induction h generalizing n with
  | nil c c' =>
    rw [List.take_nil]
    exact hagree
  | cons hop hok hupdate hdetached _ ih =>
    cases n with
    | zero => exact hagree
    | succ n => exact ih (hagree.step hop hok hupdate hdetached) n

/-- In two runs that differ in the addresses and permissions of Secure and Realm mappings only, every
    NonSecure call is answered alike at every place, up to the cache-hit flag.  What it obtains it would
    obtain from the tables with anything else in the place of their Secure and Realm pages. -/
theorem nonSecure_noninterference {config : Configuration} {c : Controller}
    (h : create config = .ok c) {ops ops' : List Op} (hpaired : Paired c c ops ops') (n : Nat)
    {t : Transaction} (ht : t.security = .nonSecure) :
    masked ((c.run (ops.take n)).1.translate t).2 =
        masked ((c.run (ops'.take n)).1.translate t).2 ∧
      ∀ r, ((c.run (ops.take n)).1.translate t).2 = .ok r →
        ∀ f : PageEntry → PageEntry, (∀ e, e.security = .nonSecure → f e = e) →
          ((c.run (ops.take n)).1.seen f).answer t = .ok { r with cacheHit := false } := by
  have hw := wellFormed_of_create h
  have hcoherent : c.Coherent fun _ => false := by
    obtain ⟨-, rfl⟩ := create_eq_ok h
    exact .of_empty rfl
  have hagree := hpaired.agree ⟨hw, hw, hcoherent, hcoherent, rfl⟩ n
  have hanswer := hagree.coherent.masked_translate (t := t) rfl
  constructor
  · calc masked ((c.run (ops.take n)).1.translate t).2
        = (c.run (ops.take n)).1.answer t := hanswer
      _ = ((c.run (ops.take n)).1.seen .veil).answer t := (answer_veil _ ht).symm
      _ = ((c.run (ops'.take n)).1.seen .veil).answer t := by rw [hagree.tables]
      _ = (c.run (ops'.take n)).1.answer t := answer_veil _ ht
      _ = masked ((c.run (ops'.take n)).1.translate t).2 :=
        (hagree.coherent'.masked_translate (t := t) rfl).symm
  · intro r hr f hf
    rw [hr] at hanswer
    exact answer_seen_of_ok ht hf hanswer.symm

/-- A Secure page is mapped elsewhere in the second run, in a stage each.  There the Secure call faults
    that succeeds in the first run and evicts what NonSecure had cached. -/
theorem nonSecure_noninterference_diverging :
    let config : Configuration := { cache := { size := 1 } }
    let c := start config [] [] .empty 0
    let t : Transaction := ⟨1, 0, 0x1234, .read, .nonSecure⟩
    let ask : Op := .translate t
    let ops (middle frame : UInt64) (rights : Permissions) : List Op :=
      [.editTable 7 (.map ⟨0x8000, 0x20000, .full, .nonSecure⟩),
        .editTable 7 (.map ⟨0x9000, frame, rights, .secure⟩), .configure 1 .bothStages,
        .createPasid 1 0, .attachTable 1 (some 7), .map 1 0 ⟨0x1000, 0x8000, .full, .nonSecure⟩,
        .map 1 0 ⟨0x2000, middle, .full, .secure⟩, ask,
        .translate ⟨1, 0, 0x2468, .read, .secure⟩]
    let one := ops 0x9000 0x30000 .full
    let two := ops 0xA000 0x40000 .empty
    create config = .ok c ∧ Paired c c one two ∧ t.security = .nonSecure ∧
      (c.run one).2.map Except.isOk ≠ (c.run two).2.map Except.isOk ∧
      (c.run one).1.tlb.keys ≠ (c.run two).1.tlb.keys ∧
      ((c.run (one.take 9)).1.translate t).2.isOk = true ∧
      masked ((c.run (one.take 9)).1.translate t).2 =
        masked ((c.run (two.take 9)).1.translate t).2 := by
  intro config c t ask ops one two
  have hc : create config = .ok c := rfl
  have hbare : ∀ {d op}, d.streams = ∅ → EditsDetached d op := by
    intro d op hd _ _ _ id s hs
    simp [hd] at hs
  have hother : ∀ {d op}, (∀ table change, op ≠ .editTable table change) → EditsDetached d op :=
    fun hne table change h => absurd h (hne table change)
  have hpaired : Paired c c one two := by
    refine .same (by nofun) (hbare rfl) ?_
    refine .cons (.editTable (.map ⟨rfl, rfl, by nofun⟩)) (fun _ => by decide +kernel) (by nofun)
      (hbare rfl) ?_
    refine .same (by nofun) (hother (by nofun)) ?_
    refine .same (by nofun) (hother (by nofun)) ?_
    refine .same (by nofun) (hother (by nofun)) ?_
    refine .same (by nofun) (hother (by nofun)) ?_
    refine .cons (.map ⟨rfl, rfl, by nofun⟩) (fun _ => by decide +kernel) (by nofun)
      (hother (by nofun)) ?_
    refine .same (by nofun) (hother (by nofun)) ?_
    exact .same (by nofun) (hother (by nofun)) (.nil _ _)
  exact ⟨hc, hpaired, rfl, by decide +kernel, by decide +kernel, by decide +kernel,
    (nonSecure_noninterference hc hpaired 9 rfl).1⟩

end Controller

end Iommu
