/-
  The tables with the pages of other security states changed.

  `seen f` puts a function over every entry of every table of a controller, PASID tables and shared ones
  alike, and forgets what is not a table or decides how one is read: counters, logs, queues, the cache.
  Two facts carry what is said about security states.

  * A NonSecure transaction reads NonSecure pages only.  If `f` leaves these alone, the tables still give
    every answer they gave (`answer_seen_of_ok`), whatever `f` makes of the rest.
  * A page of another state is refused for its state before its permissions are looked at, at both
    stages.  So where `f` keeps which pages there are and whose they are, the refusals are the same too.
    `PageEntry.veil` is such an `f`: it blanks out address and permissions (`answer_veil`).

  Operations on tables and streams commute with the veil, because none of them looks at an address or at
  permissions that are already in a table.
-/
import Iommu.Proofs.Cache.Answer

namespace Iommu

/-! ## Maps -/

section

variable {α β γ : Type} [Ord α] [Std.TransOrd α] [Std.LawfulEqOrd α]

theorem map_insert (m : Std.ExtTreeMap α β) (f : β → γ) (k : α) (v : β) :
    (m.insert k v).map (fun _ x => f x) = (m.map fun _ x => f x).insert k (f v) := by
  refine Std.ExtTreeMap.ext_getElem? fun k' => ?_
  rw [Std.ExtTreeMap.getElem?_map, Std.ExtTreeMap.getElem?_insert, Std.ExtTreeMap.getElem?_insert,
    Std.ExtTreeMap.getElem?_map]
  split <;> rfl

theorem map_erase (m : Std.ExtTreeMap α β) (f : β → γ) (k : α) :
    (m.erase k).map (fun _ x => f x) = (m.map fun _ x => f x).erase k := by
  refine Std.ExtTreeMap.ext_getElem? fun k' => ?_
  rw [Std.ExtTreeMap.getElem?_map, Std.ExtTreeMap.getElem?_erase, Std.ExtTreeMap.getElem?_erase,
    Std.ExtTreeMap.getElem?_map]
  split <;> rfl

theorem map_empty (f : β → γ) : (∅ : Std.ExtTreeMap α β).map (fun _ x => f x) = ∅ := by
  refine Std.ExtTreeMap.ext_getElem? fun k => ?_
  rw [Std.ExtTreeMap.getElem?_map, Std.ExtTreeMap.getElem?_empty, Std.ExtTreeMap.getElem?_empty]
  rfl

end

/-! ## Changing every entry -/

/-- The entry without what a page of another state than NonSecure keeps to itself. -/
def PageEntry.veil (e : PageEntry) : PageEntry :=
  if e.security = .nonSecure then e else { e with physical := 0, permissions := .empty }

/-- The table with a function put over its entries. -/
def PageTable.seen (f : PageEntry → PageEntry) (t : PageTable) : PageTable :=
  ⟨t.pages.map fun _ e => f e⟩

/-- The stream with a function put over the entries of its tables, and its counters cleared. -/
def Stream.seen (f : PageEntry → PageEntry) (s : Stream) : Stream :=
  { s with
    pasids := s.pasids.map fun _ t => t.seen f
    translations := 0
    successes := 0
    faults := 0 }

/-- The shared tables with a function put over their entries, and no logs. -/
def Resources.seen (f : PageEntry → PageEntry) (r : Resources) : Resources :=
  ⟨r.tables.map fun _ t => t.seen f, ∅⟩

/-- The configuration and the tables of a controller, with a function put over every entry. -/
def Controller.seen (f : PageEntry → PageEntry) (c : Controller) : Controller :=
  { Controller.start c.config.uncached [] [] .empty 0 with
    streams := c.streams.map fun _ s => s.seen f
    resources := c.resources.seen f }

variable {f : PageEntry → PageEntry}

namespace PageTable

/-- Seeing a table through `f` sees each entry through `f`. -/
theorem lookup_seen (t : PageTable) (a : UInt64) : (t.seen f).lookup a = (t.lookup a).map f :=
  Std.ExtTreeMap.getElem?_map

/-- Which pages are mapped is always seen. -/
theorem isMapped_seen (t : PageTable) (a : UInt64) : (t.seen f).isMapped a = t.isMapped a := by
  rw [isMapped, isMapped, lookup_seen, Option.isSome_map]

theorem seen_empty : empty.seen f = empty := congrArg PageTable.mk (map_empty f)

/-- Mapping commutes with the view, the new entry being seen too. -/
theorem seen_map (t : PageTable) (m : Mapping) :
    (t.map m).seen f = ⟨(t.seen f).pages.insert m.page (f m.entry)⟩ :=
  congrArg PageTable.mk (map_insert t.pages f m.page m.entry)

/-- Unmapping commutes with the view. -/
theorem seen_unmap (t : PageTable) (a : UInt64) : (t.unmap a).seen f = (t.seen f).unmap a :=
  congrArg PageTable.mk (map_erase t.pages f (pageBase a))

theorem seen_foldl_unmap (as : List UInt64) (t : PageTable) :
    (as.foldl unmap t).seen f = as.foldl unmap (t.seen f) := by
  induction as generalizing t with
  | nil => rfl
  | cons a as ih => rw [List.foldl_cons, ih, seen_unmap, List.foldl_cons]

/-- An access that a NonSecure page grants. -/
theorem Grants.seen {t : PageTable} {a : UInt64} {access : Access} {e : PageEntry}
    (h : t.Grants a access .nonSecure e) (hf : ∀ e, e.security = .nonSecure → f e = e) :
    (t.seen f).Grants a access .nonSecure e := by
  have hopen : e.security = .nonSecure := (Security.canAccess_iff.1 h.security).elim id id
  refine ⟨?_, h.valid, h.security, h.permission⟩
  rw [lookup_seen, h.present, Option.map_some, hf e hopen]

/-- The state of a page is tested before its permissions, so a veiled page is refused as it was. -/
theorem check_veil (t : PageTable) (a : UInt64) (access : Access) :
    (t.seen PageEntry.veil).check a access .nonSecure = t.check a access .nonSecure := by
  rw [check, check, resolve, resolve, lookup_seen]
  cases t.lookup a with
  | none => rfl
  | some e =>
    by_cases hopen : e.security = .nonSecure
    · rw [Option.map_some, PageEntry.veil, if_pos hopen]
    · -- the page and its veiled form are refused for their state, whatever they permit
      have hclosed : Security.nonSecure.canAccess e.security = false := by
        simp [Security.canAccess, hopen]
      rw [Option.map_some, PageEntry.veil, if_neg hopen]
      cases hv : e.valid <;> simp [hv, hclosed]

end PageTable

namespace Resources

theorem table_seen (r : Resources) (id : TableId) : (r.seen f).table id = (r.table id).seen f := by
  rw [table, table, Std.ExtTreeMap.getD_eq_getD_getElem?, Std.ExtTreeMap.getD_eq_getD_getElem?, seen,
    Std.ExtTreeMap.getElem?_map]
  cases r.tables[id]? with
  | none => exact PageTable.seen_empty.symm
  | some t => rfl

/-- Writing a table commutes with the view. -/
theorem seen_setTable (r : Resources) (id : TableId) (t : PageTable) :
    (r.setTable id t).seen f = (r.seen f).setTable id (t.seen f) :=
  congrArg (Resources.mk · ∅) (map_insert r.tables (PageTable.seen f) id t)

/-- Recording a fault leaves what is seen of the tables. -/
theorem seen_record (r : Resources) (id : Option LogId) (x : FaultRecord) :
    (r.record id x).seen f = r.seen f := by
  cases id <;> rfl

end Resources

namespace Stream

theorem seen_setPasidTable (s : Stream) (pasid : Pasid) (t : PageTable) :
    (s.setPasidTable pasid t).seen f = (s.seen f).setPasidTable pasid (t.seen f) :=
  congrArg (fun pasids => { s.seen f with pasids }) (map_insert s.pasids (PageTable.seen f) pasid t)

/-- Configuring commutes with the view. -/
theorem seen_configure (s : Stream) (config : StreamConfig) :
    (s.configure config).map (seen f) = (s.seen f).configure config := by
  rw [configure, configure]
  split <;> rfl

theorem pasidTable_seen (s : Stream) (pasid : Pasid) :
    (s.seen f).pasidTable pasid = (s.pasidTable pasid).map (PageTable.seen f) := by
  rw [pasidTable, pasidTable, seen, Std.ExtTreeMap.getElem?_map]
  cases s.pasids[pasid]? <;> rfl

theorem seen_createPasid (s : Stream) (pasid : Pasid) :
    (s.createPasid pasid).map (seen f) = (s.seen f).createPasid pasid := by
  have hadmits : (s.seen f).admitsPasid pasid = s.admitsPasid pasid := rfl
  have hhas : (s.seen f).hasPasid pasid = s.hasPasid pasid := Std.ExtTreeMap.contains_map
  have hcount : (s.seen f).pasidCount = s.pasidCount := Std.ExtTreeMap.size_map
  have hlimits : (s.seen f).limits = s.limits := rfl
  rw [createPasid, createPasid, hadmits, hhas, hcount, hlimits]
  split
  · rfl
  · split
    · rfl
    · split
      · rfl
      · show Except.ok ((s.setPasidTable pasid .empty).seen f) = _
        rw [seen_setPasidTable, PageTable.seen_empty]

theorem seen_removePasid (s : Stream) (pasid : Pasid) :
    (s.removePasid pasid).map (seen f) = (s.seen f).removePasid pasid := by
  have hhas : (s.seen f).hasPasid pasid = s.hasPasid pasid := Std.ExtTreeMap.contains_map
  rw [removePasid, removePasid, hhas]
  split
  · exact congrArg (fun pasids => Except.ok { s.seen f with pasids })
      (map_erase s.pasids (PageTable.seen f) pasid)
  · rfl

theorem seen_clearPasids (s : Stream) : s.clearPasids.seen f = (s.seen f).clearPasids :=
  congrArg (fun pasids => { s.seen f with pasids }) (map_empty (PageTable.seen f))

/-! ## Walking -/

theorem entryTable_seen (s : Stream) (t : Transaction) :
    (s.seen f).entryTable t = (s.entryTable t).map (PageTable.seen f) := by
  have hadmits : (s.seen f).admitsPasid t.pasid = s.admitsPasid t.pasid := rfl
  rw [entryTable, entryTable, hadmits, pasidTable_seen]
  show (if !s.enabled then _ else _) = _
  split
  · rfl
  · split
    · rfl
    · cases s.pasidTable t.pasid with
      | error e => rfl
      | ok first =>
        show (if fitsIn t.address s.limits.inputBits then _ else _) = _
        dsimp only
        split <;> rfl

/-- The stages that answer from NonSecure pages answer the same. -/
theorem Answers.seen {first : PageTable} {second : Option PageTable} {t : Transaction}
    {mode : StageMode} {r : Translation} (h : Answers first second t mode r)
    (ht : t.security = .nonSecure) (hf : ∀ e, e.security = .nonSecure → f e = e) :
    Answers (first.seen f) (second.map (PageTable.seen f)) t mode r := by
  have hgrants : ∀ {table : PageTable} {a : UInt64} {e : PageEntry},
      table.Grants a t.access t.security e → (table.seen f).Grants a t.access t.security e := by
    intro table a e he
    rw [ht] at he ⊢
    exact he.seen hf
  cases h with
  | bypass => exact .bypass
  | stage1Only h1 => exact .stage1Only (hgrants h1)
  | stage2Only hsecond h2 => exact .stage2Only (by rw [hsecond]; rfl) (hgrants h2)
  | bothStages h1 hsecond h2 => exact .bothStages (hgrants h1) (by rw [hsecond]; rfl) (hgrants h2)

/-- A non-secure access reads the same through the veil. -/
theorem lookStage_veil {t : Transaction} (ht : t.security = .nonSecure) (stage : Stage)
    (table : PageTable) (a : UInt64) :
    lookStage stage (table.seen PageEntry.veil) a t = lookStage stage table a t := by
  rw [lookStage, lookStage, ht, PageTable.check_veil]

/-- So does the second stage. -/
theorem lookStage2_veil {t : Transaction} (ht : t.security = .nonSecure) (s : Stream)
    (second : Option PageTable) (a : UInt64) :
    (s.seen PageEntry.veil).lookStage2 (second.map (PageTable.seen PageEntry.veil)) a t =
      s.lookStage2 second a t := by
  cases second with
  | none => rfl
  | some table => exact lookStage_veil ht .stage2 table a

/-- So do the stages together. -/
theorem runStages_veil {t : Transaction} (ht : t.security = .nonSecure) (s : Stream)
    (mode : StageMode) (first : PageTable) (second : Option PageTable) :
    (s.seen PageEntry.veil).runStages mode (first.seen PageEntry.veil)
      (second.map (PageTable.seen PageEntry.veil)) t = s.runStages mode first second t := by
  cases mode with
  | bypass => rfl
  | stage1Only => rw [runStages, runStages, lookStage_veil ht]
  | stage2Only => rw [runStages, runStages, lookStage2_veil ht]
  | bothStages =>
    rw [runStages, runStages, lookStage_veil ht]
    cases lookStage .stage1 first t.address t with
    | error f => rfl
    | ok e =>
      dsimp only
      rw [lookStage2_veil ht]

/-- The table attached to a stream, among the shared tables that are seen. -/
theorem attached_seen (s : Stream) (r : Resources) :
    (s.seen f).table.map (r.seen f).table = (s.table.map r.table).map (PageTable.seen f) := by
  show s.table.map (r.seen f).table = _
  rw [Option.map_map]
  exact congrArg (s.table.map ·) (funext fun id => r.table_seen id)

/-- A non-secure walk answers the same through the veil, faults included. -/
theorem walk_veil {t : Transaction} (ht : t.security = .nonSecure) (s : Stream) (r : Resources) :
    (s.seen PageEntry.veil).walk (r.seen PageEntry.veil) t = s.walk r t := by
  rw [walk, walk, attached_seen, walkWith, walkWith, entryTable_seen]
  show (if s.config.translationEnabled then _ else _) = _
  split
  · cases s.entryTable t with
    | error e => rfl
    | ok first => exact runStages_veil ht s s.config.stageMode first _
  · rfl

/-- A view that keeps the non-secure entries keeps every non-secure success. -/
theorem walk_seen_of_ok {t : Transaction} (ht : t.security = .nonSecure)
    (hf : ∀ e, e.security = .nonSecure → f e = e) {s : Stream} {r : Resources} {x : Translation}
    (h : s.walk r t = .ok x) : (s.seen f).walk (r.seen f) t = .ok x := by
  have hconfig : (s.seen f).config = s.config := rfl
  cases htranslates : s.config.translationEnabled with
  | false =>
    rw [walk_of_not_translationEnabled htranslates] at h
    rw [walk_of_not_translationEnabled (hconfig ▸ htranslates), h]
  | true =>
    obtain ⟨first, henters, hanswers⟩ := (walk_eq_ok_iff htranslates).1 h
    refine (walk_eq_ok_iff (hconfig ▸ htranslates)).2 ⟨first.seen f, ?_, ?_⟩
    · refine ⟨henters.enabled, henters.admitted, ?_, henters.fits⟩
      rw [seen, Std.ExtTreeMap.getElem?_map, henters.present]
      rfl
    · rw [attached_seen]
      exact hanswers.seen ht hf

end Stream

namespace Controller

theorem getElem?_seen (c : Controller) (id : StreamId) :
    (c.seen f).streams[id]? = c.streams[id]?.map (Stream.seen f) :=
  Std.ExtTreeMap.getElem?_map

/-- What the tables answer to a NonSecure transaction does not show what is veiled. -/
theorem answer_veil (c : Controller) {t : Transaction} (ht : t.security = .nonSecure) :
    (c.seen PageEntry.veil).answer t = c.answer t := by
  rw [answer, answer, getElem?_seen]
  cases c.streams[t.stream]? with
  | none => rfl
  | some s => exact congrArg (Except.mapError StageFault.error) (Stream.walk_veil ht s c.resources)

/-- What the tables answer to a NonSecure transaction they answer as well when anything else stands in
    the place of the Secure and Realm pages. -/
theorem answer_seen_of_ok {c : Controller} {t : Transaction} (ht : t.security = .nonSecure)
    (hf : ∀ e, e.security = .nonSecure → f e = e) {r : Translation} (h : c.answer t = .ok r) :
    (c.seen f).answer t = .ok r := by
  cases hs : c.streams[t.stream]? with
  | none =>
    rw [answer, hs] at h
    cases h
  | some s =>
    have hseen : (c.seen f).streams[t.stream]? = some (s.seen f) := by
      rw [getElem?_seen, hs]
      rfl
    rw [answer_of_stream hs] at h
    rw [answer_of_stream hseen]
    cases hwalk : s.walk c.resources t with
    | error e =>
      rw [hwalk] at h
      cases h
    | ok x =>
      rw [hwalk] at h
      exact (congrArg (Except.mapError StageFault.error)
        (Stream.walk_seen_of_ok ht hf hwalk)).trans h

/-! ## Writing streams and tables -/

/-- Writing a stream commutes with the view. -/
theorem seen_setStream (c : Controller) (s : Stream) :
    (c.setStream s).seen f = (c.seen f).setStream (s.seen f) :=
  congrArg (fun streams => { c.seen f with streams }) (map_insert c.streams (Stream.seen f) s.id s)

theorem seen_eraseStream (c : Controller) (id : StreamId) :
    ({ c with streams := c.streams.erase id } : Controller).seen f =
      { c.seen f with streams := (c.seen f).streams.erase id } :=
  congrArg (fun streams => { c.seen f with streams }) (map_erase c.streams (Stream.seen f) id)

theorem seen_setTable (c : Controller) (id : TableId) (t : PageTable) :
    ({ c with resources := c.resources.setTable id t } : Controller).seen f =
      { c.seen f with resources := (c.seen f).resources.setTable id (t.seen f) } :=
  congrArg (fun resources => { c.seen f with resources }) (c.resources.seen_setTable id t)

/-- Every stream is changed in the same way. -/
theorem seen_mapStreams (c : Controller) {g g' : Stream → Stream}
    (hg : ∀ s, (g s).seen f = g' (s.seen f)) :
    (c.mapStreams g).seen f = (c.seen f).mapStreams g' := by
  have hstreams : ((c.mapStreams g).seen f).streams = ((c.seen f).mapStreams g').streams := by
    refine Std.ExtTreeMap.ext_getElem? fun id => ?_
    rw [getElem?_seen, getElem?_mapStreams, getElem?_mapStreams, getElem?_seen, Option.map_map,
      Option.map_map]
    exact congrArg (c.streams[id]?.map ·) (funext hg)
  exact congrArg (fun streams => { c.seen f with streams }) hstreams

end Controller

end Iommu
