/-
  A list of pages changed at once or page by page.

  The bulk operations of the controller write the table that the single operations write one after the
  other (`run_pages`, which is the induction along the list), but drop more from the cache: everything of
  the PASID, where a single operation drops one page.  So the two differ in the cache alone, and then
  nothing that comes later tells them apart (`Interchangeable.of_run`): both caches are coherent, and a
  run from a coherent cache answers as one without any cache (`bare_run`).

  What is cached of a stream whose shared table was changed directly is not coherent.  The bulk operation
  may drop such a translation where the single ones keep it, so a stream may not be asked before it is
  fresh again (`Disciplined`, `not_interchangeable_when_stale`).
-/
import Iommu.Proofs.Cache.Answer
import Iommu.Proofs.Stream.Bulk

namespace Iommu

/-! ## Overwriting -/

/-- Of two insertions under one key the later one counts. -/
theorem insert_insert {α β : Type} [Ord α] [Std.TransOrd α] [Std.LawfulEqOrd α]
    (m : Std.ExtTreeMap α β) (k : α) (v w : β) : (m.insert k v).insert k w = m.insert k w := by
  refine Std.ExtTreeMap.ext_getElem? fun k' => ?_
  rw [Std.ExtTreeMap.getElem?_insert, Std.ExtTreeMap.getElem?_insert,
    Std.ExtTreeMap.getElem?_insert]
  split <;> rfl

namespace Stream

/-- Of two tables written for one PASID the later one counts. -/
theorem setPasidTable_setPasidTable (s : Stream) (pasid : Pasid) (t t' : PageTable) :
    (s.setPasidTable pasid t).setPasidTable pasid t' = s.setPasidTable pasid t' :=
  congrArg (fun pasids => { s with pasids }) (insert_insert s.pasids pasid t t')

/-- The table of a PASID is the one written last. -/
theorem pasidTable_setPasidTable (s : Stream) (pasid : Pasid) (t : PageTable) :
    (s.setPasidTable pasid t).pasidTable pasid = .ok t := by
  rw [pasidTable_eq_ok_iff, getElem?_setPasidTable, if_pos rfl]

end Stream

namespace Controller

/-- Of two streams written under one number the later one counts. -/
theorem setStream_setStream {c : Controller} {s s' : Stream} (hid : s'.id = s.id) :
    (c.setStream s).setStream s' = c.setStream s' := by
  rw [setStream, setStream, setStream, hid]
  exact congrArg (fun streams => { c with streams }) (insert_insert c.streams s.id s s')

/-- Writing back the stream that is there changes nothing. -/
theorem setStream_self {c : Controller} {s : Stream} (hs : c.streams[s.id]? = some s) :
    c.setStream s = c :=
  congrArg (fun streams => { c with streams }) (insert_of_getElem? hs)

/-! ## Page by page -/

/-- The controller with the table of a PASID replaced and any cache. -/
def Rewritten (c : Controller) (s : Stream) (pasid : Pasid) (t : PageTable) (c' : Controller) :
    Prop := ∃ tlb, c' = { c.setStream (s.setPasidTable pasid t) with tlb }

/-- Whatever table the PASID has, an operation succeeds and writes the table. -/
def Op.Writes (op : Op) (s : Stream) (pasid : Pasid) (write : PageTable → PageTable) : Prop :=
  ∀ (c : Controller) (t : PageTable), c.streams[s.id]? = some (s.setPasidTable pasid t) →
    (c.step op).2.isOk = true ∧ c.Rewritten s pasid (write t) (c.step op).1

section

variable {c c' c'' : Controller} {s : Stream} {pasid : Pasid} {t t' : PageTable}

/-- The table that is there may count as written. -/
theorem Rewritten.refl (hs : c.streams[s.id]? = some (s.setPasidTable pasid t)) :
    c.Rewritten s pasid t c := by
  have hsame : c.setStream (s.setPasidTable pasid t) = c := setStream_self hs
  exact ⟨c.tlb, by rw [hsame]⟩

/-- A table written twice is the one written last. -/
theorem Rewritten.again (h : c.Rewritten s pasid t c') (h' : c'.Rewritten s pasid t' c'') :
    c.Rewritten s pasid t' c'' := by
  obtain ⟨tlb, rfl⟩ := h
  obtain ⟨tlb', rfl⟩ := h'
  have hset : (c.setStream (s.setPasidTable pasid t)).setStream (s.setPasidTable pasid t') =
      c.setStream (s.setPasidTable pasid t') := setStream_setStream rfl
  exact ⟨tlb', congrArg (fun d => { d with tlb := tlb' }) hset⟩

/-- Two controllers with the same table written differ in their caches alone. -/
theorem Rewritten.unique (h : c.Rewritten s pasid t c') (h' : c.Rewritten s pasid t c'') :
    ∃ tlb, c' = { c'' with tlb } := by
  obtain ⟨tlb, rfl⟩ := h
  obtain ⟨tlb', rfl⟩ := h'
  exact ⟨tlb, rfl⟩

/-- The stream has the table that was written. -/
theorem Rewritten.stream (h : c.Rewritten s pasid t c') :
    c'.streams[s.id]? = some (s.setPasidTable pasid t) := by
  obtain ⟨tlb, rfl⟩ := h
  exact (getElem?_setStream ..).trans (if_pos rfl)

/-- Mapping a page in range writes the table and cannot fail. -/
theorem writes_map {m : Mapping} (hm : s.InRange m) :
    (Op.map s.id pasid m).Writes s pasid (·.map m) := by
  intro c t hs
  have hwidths : (s.setPasidTable pasid t).checkWidths m = .ok () :=
    Stream.checkWidths_eq_ok_iff_inRange.2 hm
  have hmap : (s.setPasidTable pasid t).map pasid m = .ok (s.setPasidTable pasid (t.map m)) := by
    rw [Stream.map, hwidths, Stream.pasidTable_setPasidTable]
    dsimp only
    rw [Stream.setPasidTable_setPasidTable]
  rw [step, map, stream_eq_ok_iff.2 hs]
  dsimp only
  rw [hmap]
  exact ⟨rfl, _, rfl⟩

/-- Unmapping writes the table and cannot fail, whether the page was mapped or not. -/
theorem writes_unmap (a : UInt64) : (Op.unmap s.id pasid a).Writes s pasid (·.unmap a) := by
  intro c t hs
  have hunmap : (s.setPasidTable pasid t).unmap pasid a =
      .ok (s.setPasidTable pasid (t.unmap a), t.isMapped a) := by
    rw [Stream.unmap, Stream.pasidTable_setPasidTable]
    dsimp only
    rw [Stream.setPasidTable_setPasidTable]
  rw [step, unmap, stream_eq_ok_iff.2 hs]
  dsimp only
  rw [hunmap]
  exact ⟨rfl, _, rfl⟩

/-- Operations on the pages of a PASID, one after the other: if each of them writes the table, they all
    succeed and write what a fold along the list writes. -/
theorem run_pages {α : Type} {single : α → Op} {write : PageTable → α → PageTable} {xs : List α}
    (hsingle : ∀ x ∈ xs, (single x).Writes s pasid (write · x))
    (hs : c.streams[s.id]? = some (s.setPasidTable pasid t)) :
    (∀ o ∈ (c.run (xs.map single)).2, o.isOk = true) ∧
      c.Rewritten s pasid (xs.foldl write t) (c.run (xs.map single)).1 := by
  induction xs generalizing c t with
  | nil => exact ⟨fun _ ho => absurd ho List.not_mem_nil, .refl hs⟩
  | cons x xs ih =>
    obtain ⟨hx, hxs⟩ := List.forall_mem_cons.1 hsingle
    obtain ⟨hok, hwrite⟩ := hx c t hs
    -- the rest finds the stream with the table just written
    obtain ⟨hoks, hwrites⟩ := ih hxs hwrite.stream
    exact ⟨List.forall_mem_cons.2 ⟨hok, hoks⟩, hwrite.again hwrites⟩

end

/-! ## Later operations -/

/-- The stale streams after a list of operations. -/
def staleRun (c : Controller) (stale : StreamId → Bool) : List Op → StreamId → Bool
  | [] => stale
  | op :: ops => (c.step op).1.staleRun (c.staleAfter stale op) ops

/-- The cache stays coherent along a run, but for the streams made stale on the way. -/
theorem Coherent.run {c : Controller} {stale : StreamId → Bool} (h : c.Coherent stale)
    (hw : c.WellFormed) (ops : List Op) : (c.run ops).1.Coherent (c.staleRun stale ops) := by
  induction ops generalizing c stale with
  | nil => exact h
  | cons op ops ih => exact ih (h.step hw op) (hw.step op)

/-- Two lists of operations may stand for each other: all of them succeed, they leave states that differ
    in the cache alone, and whatever is done next is answered alike, if no stream is asked to translate
    while it may have stale entries. -/
structure Interchangeable (c : Controller) (stale : StreamId → Bool) (xs ys : List Op) : Prop where
  succeed : (∀ o ∈ (c.run xs).2, o.isOk = true) ∧ ∀ o ∈ (c.run ys).2, o.isOk = true
  state : ∃ tlb, (c.run xs).1 = { (c.run ys).1 with tlb }
  later : ∀ next : List Op, (c.run xs).1.Disciplined (c.staleRun stale xs) next →
    (c.run ys).1.Disciplined (c.staleRun stale ys) next →
    visible next ((c.run xs).1.run next).2 = visible next ((c.run ys).1.run next).2

/-- States that differ in the cache alone are not told apart. -/
theorem Interchangeable.of_run {c : Controller} {stale : StreamId → Bool} {xs ys : List Op}
    (hw : c.WellFormed) (hc : c.Coherent stale)
    (hsucceed : (∀ o ∈ (c.run xs).2, o.isOk = true) ∧ ∀ o ∈ (c.run ys).2, o.isOk = true)
    (hstate : ∃ tlb, (c.run xs).1 = { (c.run ys).1 with tlb }) :
    c.Interchangeable stale xs ys where
  succeed := hsucceed
  state := hstate
  later next hxs hys := by
    have hbare : (c.run xs).1.bare = (c.run ys).1.bare := by
      obtain ⟨tlb, heq⟩ := hstate
      rw [heq]
      rfl
    -- both answer as the controller without a cache does
    have hleft := bare_run (d := (c.run ys).1.bare) (hw.run xs) (hc.run hw xs) hxs rfl hbare
    have hright := bare_run (d := (c.run ys).1.bare) (hw.run ys) (hc.run hw ys) hys rfl rfl
    exact hleft.2.trans hright.2.symm

/-! ## The bulk operations -/

section

variable {c : Controller} {stale : StreamId → Bool} {id : StreamId} {pasid : Pasid}

/-- A bulk operation and a list of single ones that write the same table. -/
theorem Interchangeable.of_rewritten {s : Stream} {t : PageTable} {op : Op} {ops : List Op}
    (hw : c.WellFormed) (hc : c.Coherent stale) (hok : (c.step op).2.isOk = true)
    (hbulk : c.Rewritten s pasid t (c.step op).1)
    (hsingles : (∀ o ∈ (c.run ops).2, o.isOk = true) ∧ c.Rewritten s pasid t (c.run ops).1) :
    c.Interchangeable stale [op] ops := by
  refine .of_run hw hc ⟨fun o ho => ?_, hsingles.1⟩ (hbulk.unique hsingles.2)
  rw [List.mem_singleton.1 ho]
  exact hok

/-- Mapping at once and mapping one by one, in any order. -/
theorem interchangeable_mapPages (hw : c.WellFormed) (hc : c.Coherent stale) {ms ms' : List Mapping}
    (hok : (c.step (.mapPages id pasid ms)).2.isOk = true) (hperm : ms'.Perm ms) :
    c.Interchangeable stale [.mapPages id pasid ms] (ms'.map (.map id pasid)) := by
  obtain ⟨c', hc'⟩ := isOk_settle.1 hok
  have hnodup := nodup_of_mapPages hc'
  obtain ⟨s, t, hs, hwidths, ht, rfl⟩ := mapPages_eq_ok hc'
  obtain rfl : s.id = id := hw.keyed id s hs
  have hbulk : c.Rewritten s pasid (ms'.foldl PageTable.map t)
      (c.step (.mapPages s.id pasid ms)).1 := by
    rw [PageTable.foldl_map_perm hperm hnodup, step, hc']
    exact ⟨_, rfl⟩
  have hsingle : ∀ m ∈ ms', (Op.map s.id pasid m).Writes s pasid (·.map m) := by
    intro m hm
    have hwidth := Stream.checkAllWidths_eq_ok_iff.1 hwidths m (hperm.subset hm)
    exact writes_map (Stream.checkWidths_eq_ok_iff_inRange.1 hwidth)
  rw [← Stream.setPasidTable_self ht] at hs
  exact .of_rewritten hw hc hok hbulk (run_pages hsingle hs)

/-- Unmapping at once and unmapping one by one whatever list names the same pages. -/
theorem interchangeable_unmapPages (hw : c.WellFormed) (hc : c.Coherent stale) {as as' : List UInt64}
    (hok : (c.step (.unmapPages id pasid as)).2.isOk = true)
    (hsame : ∀ page, page ∈ as'.map pageBase ↔ page ∈ as.map pageBase) :
    c.Interchangeable stale [.unmapPages id pasid as] (as'.map (.unmap id pasid)) := by
  obtain ⟨c', hc'⟩ := isOk_settle.1 hok
  obtain ⟨s, t, hs, ht, rfl⟩ := unmapPages_eq_ok hc'
  obtain rfl : s.id = id := hw.keyed id s hs
  have hbulk : c.Rewritten s pasid (as'.foldl PageTable.unmap t)
      (c.step (.unmapPages s.id pasid as)).1 := by
    rw [PageTable.foldl_unmap_congr hsame, step, hc']
    exact ⟨_, rfl⟩
  have hsingle : ∀ a ∈ as', (Op.unmap s.id pasid a).Writes s pasid (·.unmap a) :=
    fun a _ => writes_unmap a
  rw [← Stream.setPasidTable_self ht] at hs
  exact .of_rewritten hw hc hok hbulk (run_pages hsingle hs)

end

/-- Bulk operations are their single counterparts, all or nothing.  On a table and on a PASID of a stream
    they say which entry is wrong, or do what the single operations do in any order.  On a controller, in
    whatever state, they may stand for the single operations, and these for them. -/
theorem bulk_all_or_nothing {config : Configuration} {c : Controller} (h : create config = .ok c)
    (before : List Op) :
    (∀ (t : PageTable) (ms : List Mapping), t.MapsAll ms) ∧
    (∀ (t : PageTable) (as : List UInt64), t.UnmapsAll as) ∧
    (∀ (x : Stream.Session) (pasid : Pasid) (ms : List Mapping), x.MapsAll pasid ms) ∧
    let d := (c.run before).1
    let stale := c.staleRun (fun _ => false) before
    ∀ (id : StreamId) (pasid : Pasid),
      (∀ ms ms' : List Mapping, (d.step (.mapPages id pasid ms)).2.isOk = true → ms'.Perm ms →
        d.Interchangeable stale [.mapPages id pasid ms] (ms'.map (.map id pasid))) ∧
      ∀ as as' : List UInt64, (d.step (.unmapPages id pasid as)).2.isOk = true →
        (∀ page, page ∈ as'.map pageBase ↔ page ∈ as.map pageBase) →
        d.Interchangeable stale [.unmapPages id pasid as] (as'.map (.unmap id pasid)) := by
  refine ⟨PageTable.mapsAll, PageTable.unmapsAll, Stream.Session.mapsAll, ?_⟩
  intro d stale id pasid
  have hw := wellFormed_of_create h
  have hempty : c.tlb.entries = [] := by
    obtain ⟨-, rfl⟩ := create_eq_ok h
    rfl
  have hcoherent : d.Coherent stale := Coherent.run (.of_empty hempty) hw before
  exact ⟨fun ms ms' hok hperm => interchangeable_mapPages (hw.run before) hcoherent hok hperm,
    fun as as' hok hsame => interchangeable_unmapPages (hw.run before) hcoherent hok hsame⟩

/-- A cached page is remapped with another, and taken out under two of its addresses; with an alias in the
    list nothing is mapped. -/
theorem bulk_all_or_nothing_aliases :
    let c := start {} [] [] .empty 0
    let m (input frame : UInt64) : Mapping := ⟨input, frame, .full, .nonSecure⟩
    let before : List Op := [.configure 1 {}, .createPasid 1 0, .map 1 0 (m 0x1000 0x8000),
      .translate ⟨1, 0, 0x1234, .read, .nonSecure⟩]
    let d := (c.run before).1
    let stale := c.staleRun (fun _ => false) before
    create {} = .ok c ∧ d.tlb.size = 1 ∧
      d.Interchangeable stale [.mapPages 1 0 [m 0x1004 0x9000, m 0x2000 0xA000]]
        [.map 1 0 (m 0x2000 0xA000), .map 1 0 (m 0x1004 0x9000)] ∧
      d.Interchangeable stale [.unmapPages 1 0 [0x1004, 0x1FFF]] [.unmap 1 0 0x1000] ∧
      d.step (.mapPages 1 0 [m 0x1000 0x9000, m 0x2000 0xA000, m 0x1004 0xB000]) =
        (d, .error (.pageAlreadyMapped 0x1000)) := by
  intro c m before d stale
  have hcreate : create {} = .ok c := rfl
  obtain ⟨-, -, -, hbulk⟩ := bulk_all_or_nothing hcreate before
  obtain ⟨hmap, hunmap⟩ := hbulk 1 0
  have hsame : ∀ page : UInt64, page ∈ [0x1000].map pageBase ↔
      page ∈ [0x1004, 0x1FFF].map pageBase := by
    intro page
    rw [show [0x1000].map pageBase = [0x1000] by decide,
      show [0x1004, 0x1FFF].map pageBase = [0x1000, 0x1000] by decide]
    simp
  exact ⟨hcreate, by decide +kernel, hmap _ _ (by decide +kernel) (List.Perm.swap ..),
    hunmap _ [0x1000] (by decide +kernel) hsame, by decide +kernel⟩

/-- A shared table is changed directly while a page of it is cached.  Mapping another page at once drops
    the stale translation, and mapping it alone does not, so the next call to translate is answered
    differently. -/
theorem not_interchangeable_when_stale :
    let c := start {} [] [] .empty 0
    let m (input frame : UInt64) : Mapping := ⟨input, frame, .full, .nonSecure⟩
    let ask : Transaction := ⟨1, 0, 0x1234, .read, .nonSecure⟩
    let before : List Op := [.configure 1 .stage2Only, .createPasid 1 0, .attachTable 1 (some 7),
      .editTable 7 (.map (m 0x1000 0x8000)), .translate ask, .editTable 7 (.map (m 0x1000 0x9000))]
    let d := (c.run before).1
    let bulk := d.step (.mapPages 1 0 [m 0x5000 0x6000])
    let single := d.step (.map 1 0 (m 0x5000 0x6000))
    create {} = .ok c ∧ bulk.2 = .ok .done ∧ single.2 = .ok .done ∧
      (bulk.1.translate ask).2.map Translation.physical = .ok 0x9234 ∧
      (single.1.translate ask).2.map Translation.physical = .ok 0x8234 ∧
      masked (bulk.1.translate ask).2 ≠ masked (single.1.translate ask).2 := by
  intro c m ask before d bulk single
  refine ⟨rfl, ?_, ?_, ?_, ?_, ?_⟩ <;> decide +kernel

end Controller

end Iommu
