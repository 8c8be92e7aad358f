/-
  What the history of a stream says of it.

  `history` is the operations of a run that were accepted, the latest first.  Every part of a stream that
  a walk reads is a register, and holds what the last accepted operation to write it wrote (`last`): the
  configuration, the limits, the attached table, whether a PASID is there, and each page of each table.
  `summary` reads all of them off the history, without the maps that a stream keeps them in.

  `Follows` relates a session to a summary.  An operation writes few registers, and the head of the
  history shows which, so each step leaves most of the relation as it stands; the five that change the
  table of a PASID go through one lemma (`Follows.edit`).
-/
import Mathlib.Data.List.Dedup
import Iommu.Proofs.PageTable.Bulk
import Iommu.Proofs.Stream.Edit
import Iommu.Stream.Step

namespace Iommu.Stream

/-! ## Registers -/

namespace Op

/-- The configuration an operation sets, if it sets one. -/
def newConfig : Op → Option StreamConfig
  | .configure config => some config
  | _ => none

/-- The limits an operation sets, if it sets any. -/
def newLimits : Op → Option StreamLimits
  | .setLimits limits => some limits
  | _ => none

/-- The enabled flag an operation sets, if it sets one. -/
def newEnabled : Op → Option Bool
  | .setEnabled enabled => some enabled
  | _ => none

/-- The stage-2 table an operation attaches or, with `none` inside, detaches. -/
def newTable : Op → Option (Option TableId)
  | .attachTable table => some table
  | _ => none

/-- Whether a PASID is there afterwards, if the operation makes or drops it. -/
def newPresence (pasid : Pasid) : Op → Option Bool
  | .createPasid p => if p = pasid then some true else none
  | .removePasid p => if p = pasid then some false else none
  | .clearPasids => some false
  | _ => none

theorem newPresence_createPasid (p pasid : Pasid) :
    (createPasid p).newPresence pasid = if p = pasid then some true else none := rfl

theorem newPresence_removePasid (p pasid : Pasid) :
    (removePasid p).newPresence pasid = if p = pasid then some false else none := rfl

/-- The change to the table of a PASID. -/
def edit : Op → Option (Pasid × PageTable.Op)
  | .map pasid m => some (pasid, .map m)
  | .unmap pasid a => some (pasid, .unmap a)
  | .mapPages pasid ms => some (pasid, .mapPages ms)
  | .unmapPages pasid as => some (pasid, .unmapPages as)
  | .editPasid pasid op => some (pasid, op)
  | _ => none

/-- What is written to a page of a PASID.  A PASID that is dropped loses its pages, and none is written
    until it is made anew (`Follows.mapping_of_absent`), so the mapping that was written last was written
    since the PASID was made. -/
def newMapping (pasid : Pasid) (page : UInt64) : Op → Option (Option Mapping)
  | .removePasid p => if p = pasid then some none else none
  | .clearPasids => some none
  | op => op.edit.bind fun change => if change.1 = pasid then change.2.writes page else none

theorem newMapping_removePasid (p pasid : Pasid) (page : UInt64) :
    (removePasid p).newMapping pasid page = if p = pasid then some none else none := rfl

/-- An edit writes the mappings of its own PASID, as its table change says. -/
theorem newMapping_of_edit {op : Op} {pasid p : Pasid} {change : PageTable.Op} {page : UInt64}
    (hop : op.edit = some (pasid, change)) :
    op.newMapping p page = if pasid = p then change.writes page else none := by
  cases op <;> cases hop <;> rfl

/-- What is written to a page of a shared table. -/
def newShared (table : TableId) (page : UInt64) : Op → Option (Option Mapping)
  | .editTable id op => if id = table then op.writes page else none
  | _ => none

/-- The PASID that is made, or that was there already. -/
def created : Op → Option Pasid
  | .createPasid pasid => some pasid
  | _ => none

/-- Only `createPasid` makes a PASID present. -/
theorem created_of_newPresence {op : Op} {pasid : Pasid} (h : op.newPresence pasid = some true) :
    op.created = some pasid := by
  cases op with
  | createPasid p =>
    rw [newPresence_createPasid] at h
    split at h
    · subst p
      rfl
    · cases h
  | removePasid p =>
    rw [newPresence_removePasid] at h
    split at h <;> cases h
  | _ => cases h

end Op

/-- What a register holds that `f` says how operations write: the last value written, or else the one it
    had at first. -/
def last {α : Type} (f : Op → Option α) (first : α) (h : List Op) : α := (h.findSome? f).getD first

/-- The last write of a history is its newest operation's, if that wrote. -/
theorem last_cons {α : Type} (f : Op → Option α) (first : α) (op : Op) (h : List Op) :
    last f first (op :: h) = (f op).getD (last f first h) := by
  rw [last, List.findSome?_cons]
  cases f op <;> rfl

/-- What operations say of a stream. -/
structure Summary where
  id : StreamId
  config : StreamConfig
  limits : StreamLimits
  enabled : Bool
  /-- The shared table that stands for stage 2. -/
  table : Option TableId
  present : Pasid → Bool
  /-- Number of PASIDs that are there. -/
  population : Nat
  /-- The mapping of a page of a PASID. -/
  mapping : Pasid → UInt64 → Option Mapping
  /-- The mapping of a page of a shared table. -/
  shared : TableId → UInt64 → Option Mapping

/-- What the accepted operations, the latest first, say of a stream that was created in this way. -/
def summary (id : StreamId) (config : StreamConfig) (limits : StreamLimits) (h : List Op) :
    Summary where
  id
  config := last Op.newConfig config h
  limits := last Op.newLimits limits h
  enabled := last Op.newEnabled true h
  table := last Op.newTable none h
  present pasid := last (Op.newPresence pasid) false h
  population :=
    ((h.filterMap Op.created).dedup.filter fun pasid => last (Op.newPresence pasid) false h).length
  mapping pasid page := last (Op.newMapping pasid page) none h
  shared table page := last (Op.newShared table page) none h

namespace Session

/-- The operation, if it is accepted. -/
def accepted (x : Session) (op : Op) : List Op := if (x.step op).2.isOk then [op] else []

/-- The operations of a run that are accepted, the latest first. -/
def history (x : Session) : List Op → List Op
  | [] => []
  | op :: ops => (x.step op).1.history ops ++ x.accepted op

end Session

/-! ## Changes to the table of a PASID -/

/-- An accepted edit replaces the table of one present PASID by its changed version. -/
theorem editPasid_eq_ok {s s' : Stream} {pasid : Pasid} {op : PageTable.Op} {b : Bool}
    (h : s.editPasid pasid op = .ok (s', b)) : ∃ t t', s.pasids[pasid]? = some t ∧
      t.step op = .ok (t', b) ∧ s' = s.setPasidTable pasid t' := by
  rw [editPasid] at h
  split at h
  · cases h
  · rename_i t ht
    split at h
    · cases h
    · rename_i t' b' hstep
      cases h
      exact ⟨t, t', pasidTable_eq_ok_iff.1 ht, hstep, rfl⟩

/-- Mapping is the width check followed by the edit of the PASID's table. -/
theorem map_eq_ok_iff_edit {s s' : Stream} {pasid : Pasid} {m : Mapping} :
    s.map pasid m = .ok s' ↔
      s.checkWidths m = .ok () ∧ ∃ b, s.editPasid pasid (.map m) = .ok (s', b) := by
  rw [map, editPasid]
  cases s.checkWidths m <;> cases s.pasidTable pasid <;> simp [PageTable.step]

theorem unmap_eq_edit (s : Stream) (pasid : Pasid) (a : UInt64) :
    s.unmap pasid a = s.editPasid pasid (.unmap a) := by
  rw [unmap, editPasid]
  cases s.pasidTable pasid <;> rfl

/-- A bulk map checks every width first, then edits the table once. -/
theorem mapPages_eq_ok_iff_edit {s s' : Stream} {pasid : Pasid} {ms : List Mapping} :
    s.mapPages pasid ms = .ok s' ↔
      s.checkAllWidths ms = .ok () ∧ ∃ b, s.editPasid pasid (.mapPages ms) = .ok (s', b) := by
  rw [mapPages, editPasid]
  cases s.checkAllWidths ms with
  | error e => simp
  | ok _ =>
    cases s.pasidTable pasid with
    | error e => simp
    | ok t =>
      simp only [PageTable.step]
      cases t.mapPages ms <;> simp [Except.map]

/-- A bulk unmap is an edit of the PASID's table. -/
theorem unmapPages_eq_ok_iff_edit {s s' : Stream} {pasid : Pasid} {as : List UInt64} :
    s.unmapPages pasid as = .ok s' ↔ ∃ b, s.editPasid pasid (.unmapPages as) = .ok (s', b) := by
  rw [unmapPages, editPasid]
  cases s.pasidTable pasid with
  | error e => simp
  | ok t =>
    simp only [PageTable.step]
    cases t.unmapPages as <;> simp [Except.map]

/-! ## The stream and its history -/

/-- A session is as a summary says. -/
structure Follows (y : Summary) (x : Session) : Prop where
  id : x.stream.id = y.id
  /-- The fault mode can be set on its own, and no walk reads it. -/
  config : x.stream.config = { y.config with faultMode := x.stream.config.faultMode }
  valid : y.config.isValid = true
  limits : x.stream.limits = y.limits
  enabled : x.stream.enabled = y.enabled
  table : x.stream.table = y.table
  present : ∀ pasid, x.stream.hasPasid pasid = y.present pasid
  mapping : ∀ pasid a, (x.stream.pasids[pasid]?.bind fun t => t.lookup a) =
    (y.mapping pasid (pageBase a)).map Mapping.entry
  shared : ∀ id a, (x.resources.table id).lookup a =
    (y.shared id (pageBase a)).map Mapping.entry

namespace Follows

variable {id : StreamId} {config : StreamConfig} {limits : StreamLimits} {h : List Op} {x : Session}

/-- A new stream has no history. -/
theorem start (hstart : Session.start id config limits = .ok x) :
    Follows (summary id config limits []) x := by
  obtain ⟨s, hs, rfl⟩ := map_eq_ok_iff.1 hstart
  rw [create] at hs
  split at hs
  · rename_i hvalid
    obtain rfl := Except.ok.inj hs
    refine ⟨rfl, rfl, hvalid, rfl, rfl, rfl, fun pasid => ?_, fun pasid a => ?_, fun i a => ?_⟩
    · exact Std.ExtTreeMap.contains_empty
    · show ((∅ : Std.ExtTreeMap Pasid PageTable)[pasid]?.bind _) = none
      rw [Std.ExtTreeMap.getElem?_empty, Option.bind_none]
    · show (Resources.empty.table i).lookup a = none
      rw [Resources.table, Resources.empty, Std.ExtTreeMap.getD_empty, PageTable.lookup_empty]
  · cases hs

/-- An accepted change to the table of a PASID. -/
theorem edit (hf : Follows (summary id config limits h) x) {op : Op} {pasid : Pasid}
    {change : PageTable.Op} {s : Stream} {b : Bool} (hop : op.edit = some (pasid, change))
    (hs : x.stream.editPasid pasid change = .ok (s, b)) :
    Follows (summary id config limits (op :: h)) { x with stream := s } := by
  obtain ⟨t, t', ht, hstep, rfl⟩ := editPasid_eq_ok hs
  have hpresent : ∀ p, (x.stream.setPasidTable pasid t').hasPasid p =
      (summary id config limits h).present p := by
    intro p
    rw [← hf.present, Bool.eq_iff_iff, hasPasid_eq_true, hasPasid_eq_true, getElem?_setPasidTable]
    by_cases hp : pasid = p
    · subst hp
      simp [ht]
    · rw [if_neg hp]
  have hmapping : ∀ p a,
      ((x.stream.setPasidTable pasid t').pasids[p]?.bind fun t => t.lookup a) =
        ((summary id config limits (op :: h)).mapping p (pageBase a)).map Mapping.entry := by
    intro p a
    have hold := hf.mapping p a
    show _ = (last (Op.newMapping p (pageBase a)) none (op :: h)).map Mapping.entry
    rw [last_cons, Op.newMapping_of_edit hop, getElem?_setPasidTable]
    by_cases hp : pasid = p
    · subst hp
      rw [ht, Option.bind_some] at hold
      rw [if_pos rfl, if_pos rfl, Option.bind_some, PageTable.lookup_step hstep, hold]
      cases change.writes (pageBase a) <;> rfl
    · rw [if_neg hp, if_neg hp, hold]
      rfl
  cases op with
  | map | unmap | mapPages | unmapPages | editPasid =>
    exact { hf with present := hpresent, mapping := hmapping }
  | _ => cases hop

/-- An operation that sets parts of the stream, and changes nothing when it fails. -/
theorem settle (hf : Follows (summary id config limits h) x) {op : Op} {r : Except Error Stream}
    (hstep : x.step op = x.settle r)
    (hok : ∀ s, r = .ok s → Follows (summary id config limits (op :: h)) { x with stream := s }) :
    Follows (summary id config limits (x.accepted op ++ h)) (x.step op).1 := by
  rw [Session.accepted, hstep]
  cases r with
  | error e => exact hf
  | ok s => exact hok s rfl

/-- Likewise for one that answers a flag. -/
theorem settleFlag (hf : Follows (summary id config limits h) x) {op : Op}
    {r : Except Error (Stream × Bool)} (hstep : x.step op = x.settleFlag r)
    (hok : ∀ s b, r = .ok (s, b) →
      Follows (summary id config limits (op :: h)) { x with stream := s }) :
    Follows (summary id config limits (x.accepted op ++ h)) (x.step op).1 := by
  rw [Session.accepted, hstep]
  cases r with
  | error e => exact hf
  | ok s => exact hok s.1 s.2 rfl

/-- A PASID that is not there has no mapping left from a time when it was. -/
theorem mapping_of_absent {y : Summary} (hf : Follows y x) {pasid : Pasid}
    (h : x.stream.hasPasid pasid = false) (a : UInt64) : y.mapping pasid (pageBase a) = none := by
  have habsent : x.stream.pasids[pasid]? = none := by
    rw [hasPasid, Std.ExtTreeMap.contains_eq_isSome_getElem?] at h
    exact Option.isNone_iff_eq_none.1 (Option.isSome_eq_false_iff.1 h)
  have hold := hf.mapping pasid a
  rw [habsent, Option.bind_none] at hold
  exact Option.map_eq_none_iff.1 hold.symm

/-- Making a PASID. -/
theorem createPasid (hf : Follows (summary id config limits h) x) {pasid : Pasid} {s : Stream}
    (hs : x.stream.createPasid pasid = .ok s) :
    Follows (summary id config limits (.createPasid pasid :: h)) { x with stream := s } := by
  have hlast : ∀ p, (summary id config limits (.createPasid pasid :: h)).present p =
      if pasid = p then true else (summary id config limits h).present p := by
    intro p
    refine (last_cons _ _ _ _).trans ?_
    rw [Op.newPresence_createPasid]
    split <;> rfl
  have hthere := hasPasid_of_createPasid hs
  obtain ⟨-, rfl | ⟨hnew, -, rfl⟩⟩ := createPasid_eq_ok hs
  · -- it was there, and keeps its table
    refine { hf with present := fun p => ?_ }
    rw [hlast]
    split
    · subst pasid
      exact hthere
    · exact hf.present p
  · refine { hf with present := fun p => ?_, mapping := fun p a => ?_ }
    · rw [hlast, ← hf.present, Bool.eq_iff_iff, hasPasid_eq_true, getElem?_setPasidTable]
      split
      · simp
      · exact hasPasid_eq_true.symm
    · rw [getElem?_setPasidTable]
      split
      · -- the history holds nothing of the new PASID, as its table does
        subst pasid
        rw [Option.bind_some, PageTable.lookup_empty]
        exact (congrArg (Option.map Mapping.entry) (hf.mapping_of_absent hnew a)).symm
      · exact hf.mapping p a

/-- Dropping a PASID. -/
theorem removePasid (hf : Follows (summary id config limits h) x) {pasid : Pasid} {s : Stream}
    (hs : x.stream.removePasid pasid = .ok s) :
    Follows (summary id config limits (.removePasid pasid :: h)) { x with stream := s } := by
  obtain ⟨-, rfl⟩ := removePasid_eq_ok hs
  refine { hf with present := fun p => ?_, mapping := fun p a => ?_ }
  · show (x.stream.pasids.erase pasid).contains p = last (Op.newPresence p) false _
    rw [last_cons, Op.newPresence_removePasid, Std.ExtTreeMap.contains_erase]
    have hold : x.stream.pasids.contains p = last (Op.newPresence p) false h := hf.present p
    by_cases hp : pasid = p
    · simp [hp]
    · simp [hp, hold]
  · show ((x.stream.pasids.erase pasid)[p]?.bind _) =
      (last (Op.newMapping p (pageBase a)) none _).map Mapping.entry
    rw [last_cons, Op.newMapping_removePasid, Std.ExtTreeMap.getElem?_erase]
    have hold := hf.mapping p a
    by_cases hp : pasid = p
    · simp [hp]
    · rw [if_neg hp, if_neg (by simpa using hp)]
      exact hold

/-- A change to a shared table. -/
theorem editTable (hf : Follows (summary id config limits h) x) (i : TableId)
    (change : PageTable.Op) : Follows
      (summary id config limits (x.accepted (.editTable i change) ++ h))
      (x.step (.editTable i change)).1 := by
  rw [Session.accepted, Session.step, Session.editTable]
  cases hstep : (x.resources.table i).step change with
  | error e => exact hf
  | ok r =>
    refine { hf with shared := fun j a => ?_ }
    show _ = (last (Op.newShared j (pageBase a)) none (.editTable i change :: h)).map _
    have hold := hf.shared j a
    rw [last_cons, Op.newShared, Resources.table_setTable]
    split
    · subst i
      rw [PageTable.lookup_step hstep, hold]
      cases change.writes (pageBase a) <;> rfl
    · exact hold

/-- Recording a fault touches no register. -/
theorem recordFault {y : Summary} (hf : Follows y x) (clock : Nat) (t : Transaction)
    (f : StageFault) : Follows y (x.recordFault clock t f).1 :=
  { hf with
    shared := fun i a =>
      (congrArg (·.lookup a) (Resources.table_record _ _ _ i)).trans (hf.shared i a) }

/-- A translation touches no register. -/
theorem translate {y : Summary} (hf : Follows y x) (clock : Nat) (t : Transaction) :
    Follows y (x.translate clock t).1 := by
  rw [Session.translate, resolve]
  cases x.stream.walk x.resources t with
  | ok r => exact { hf with }
  | error f =>
    have hcount : Follows y { x with stream := x.stream.countTranslation false } := { hf with }
    exact hcount.recordFault clock t f

/-- An operation that is accepted becomes the head of the history, and the session follows it. -/
theorem step (hf : Follows (summary id config limits h) x) (op : Op) :
    Follows (summary id config limits (x.accepted op ++ h)) (x.step op).1 := by
  cases op with
  | configure c =>
    refine hf.settle rfl fun s hs => ?_
    obtain ⟨hvalid, rfl⟩ := configure_eq_ok hs
    exact { hf with config := rfl, valid := hvalid }
  | setFaultMode mode =>
    exact { hf with config := congrArg (fun c => { c with faultMode := mode }) hf.config }
  | setLimits l => exact { hf with limits := rfl }
  | setEnabled b => exact { hf with enabled := rfl }
  | attachTable t => exact { hf with table := rfl }
  | attachLog l => exact { hf with }
  | createPasid pasid => exact hf.settle rfl fun s hs => hf.createPasid hs
  | removePasid pasid => exact hf.settle rfl fun s hs => hf.removePasid hs
  | clearPasids =>
    refine { hf with present := fun p => ?_, mapping := fun p a => ?_ }
    · exact Std.ExtTreeMap.contains_empty
    · show ((∅ : Std.ExtTreeMap Pasid PageTable)[p]?.bind _) = none
      rw [Std.ExtTreeMap.getElem?_empty, Option.bind_none]
  | map pasid m =>
    refine hf.settle rfl fun s hs => ?_
    obtain ⟨-, b, hb⟩ := map_eq_ok_iff_edit.1 hs
    exact hf.edit rfl hb
  | unmap pasid a =>
    exact hf.settleFlag rfl fun s b hs => hf.edit rfl ((unmap_eq_edit _ _ _).symm.trans hs)
  | mapPages pasid ms =>
    refine hf.settle rfl fun s hs => ?_
    obtain ⟨-, b, hb⟩ := mapPages_eq_ok_iff_edit.1 hs
    exact hf.edit rfl hb
  | unmapPages pasid as =>
    refine hf.settle rfl fun s hs => ?_
    obtain ⟨b, hb⟩ := unmapPages_eq_ok_iff_edit.1 hs
    exact hf.edit rfl hb
  | editPasid pasid change => exact hf.settleFlag rfl fun s b hs => hf.edit rfl hs
  | editTable i change => exact hf.editTable i change
  | translate clock t =>
    -- the one operation that leaves a trace when it fails
    have hkept : Follows (summary id config limits h) (x.step (.translate clock t)).1 :=
      hf.translate clock t
    rw [Session.accepted]
    split
    · exact { hkept with }
    · exact hkept
  | recordFault clock t f => exact { hf.recordFault clock t f with }
  | resetStatistics => exact { hf with }

/-- A run. -/
theorem run (hf : Follows (summary id config limits h) x) (ops : List Op) :
    Follows (summary id config limits (x.history ops ++ h)) (x.run ops).1 := by
  induction ops generalizing x h with
  | nil => exact hf
  | cons op ops ih =>
    have hrest := ih (hf.step op)
    rwa [← List.append_assoc] at hrest

end Follows

end Iommu.Stream
