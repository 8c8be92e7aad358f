/-
  What a walk answers, computed from the history of the stream.

  `Summary.walk` is a translation written without the structures of a stream: it asks the last-writer
  registers of a history for the flags, for the PASID and for at most two mappings, and names the first
  thing that is wrong.  A stream that went through that history answers every transaction so
  (`Follows.walk`): the tables hold for each page the entry of the mapping that was written to it last
  (`lookStage_eq`), and a mode of stages is no more than the two flags it was made of.

  Which operations enter the history is told by the registers as well (`Summary.Accepts`,
  `Follows.accepts_iff`), so the reference stands on its own.
-/
import Mathlib.Algebra.Group.Nat.Defs
import Iommu.Proofs.Stream.History

namespace Iommu.Stream

/-! ## The reference -/

/-- A bus of some wires carries an address. -/
def Carries (bits : UInt32) (a : UInt64) : Prop := a.toNat < 2 ^ bits.toNat

instance (bits : UInt32) (a : UInt64) : Decidable (Carries bits a) :=
  inferInstanceAs (Decidable (_ < _))

/-- An address moved to the page that a mapping names: the frame with the offset of the address. -/
def moved (m : Mapping) (a : UInt64) : UInt64 := pageBase m.physical ||| pageOffset a

/-- What a stage makes of an address whose page was last mapped so.  The page has to be mapped, open to
    the security state and open to the access, and the first that fails is the fault. -/
def look (stage : Stage) (mapping : Option Mapping) (a : UInt64) (t : Transaction) :
    Except StageFault Mapping :=
  match mapping with
  | none => .error ⟨.pageNotMapped a, stage⟩
  | some m =>
    if ¬(m.security = .nonSecure ∨ m.security = t.security) then
      .error ⟨.securityViolation a t.security m.security, stage⟩
    else if m.permissions.allows t.access = false then
      .error ⟨.permissionViolation a t.access, stage⟩
    else .ok m

namespace Summary

/-- A PASID is a number of 20 bits, and zero has to be allowed. -/
def Permits (y : Summary) (pasid : Pasid) : Prop :=
  pasid.toNat < 2 ^ 20 ∧ (pasid = 0 → y.limits.allowPasidZero = true)

instance (y : Summary) (pasid : Pasid) : Decidable (y.Permits pasid) :=
  inferInstanceAs (Decidable (_ ∧ _))

/-- Stage 1 asks the PASID. -/
def look1 (y : Summary) (t : Transaction) : Except StageFault Mapping :=
  look .stage1 (y.mapping t.pasid (pageBase t.address)) t.address t

/-- Stage 2 asks the attached table. -/
def look2 (y : Summary) (a : UInt64) (t : Transaction) : Except StageFault Mapping :=
  match y.table with
  | none => .error ⟨.misconfigured (.noStage2Table y.id), .stage2⟩
  | some table => look .stage2 (y.shared table (pageBase a)) a t

/-- The stages that are enabled.  With both, what stage 1 makes of the address goes into stage 2. -/
def stages (y : Summary) (t : Transaction) : Except StageFault Translation :=
  if y.config.stage1Enabled then do
    let m1 ← y.look1 t
    if y.config.stage2Enabled then
      let m2 ← y.look2 (moved m1 t.address) t
      return .walked (moved m2 t.address) (some (moved m1 t.address))
        (m1.permissions.inter m2.permissions) t.security
    else
      return .walked (moved m1 t.address) none m1.permissions t.security
  else do
    let m2 ← y.look2 t.address t
    return .walked (moved m2 t.address) none m2.permissions t.security

/-- What the stream answers a transaction. -/
def walk (y : Summary) (t : Transaction) : Except StageFault Translation :=
  if y.config.translationEnabled = false then .ok (.bypass t.address t.security)
  else if y.enabled = false then .error (.unstaged (.streamDisabled y.id))
  else if ¬y.Permits t.pasid then .error (.unstaged (.invalidPasid t.pasid))
  else if y.present t.pasid = false then .error (.unstaged (.pasidNotFound y.id t.pasid))
  else if ¬Carries y.limits.inputBits t.address then
    .error (.unstaged (.invalidAddress t.address y.limits.inputBits))
  else y.stages t

/-- The addresses of a mapping fit the buses. -/
def Fits (y : Summary) (m : Mapping) : Prop :=
  Carries y.limits.inputBits m.input ∧ Carries y.limits.outputBits m.physical

/-- The table of a PASID is there and takes a change. -/
def Takes (y : Summary) (pasid : Pasid) (change : PageTable.Op) : Prop :=
  y.present pasid = true ∧ change.Admissible fun page => (y.mapping pasid page).isSome = true

/-- Whether an operation is accepted. -/
def Accepts (y : Summary) : Op → Prop
  | .configure config =>
    config.translationEnabled = true → config.stage1Enabled = true ∨ config.stage2Enabled = true
  | .createPasid pasid =>
    y.Permits pasid ∧ (y.present pasid = true ∨ y.population < y.limits.maxPasids)
  | .removePasid pasid => y.present pasid = true
  | .map pasid m => y.Fits m ∧ y.Takes pasid (.map m)
  | .unmap pasid a => y.Takes pasid (.unmap a)
  | .mapPages pasid ms => (∀ m ∈ ms, y.Fits m) ∧ y.Takes pasid (.mapPages ms)
  | .unmapPages pasid as => y.Takes pasid (.unmapPages as)
  | .editPasid pasid change => y.Takes pasid change
  | .editTable table change =>
    change.Admissible fun page => (y.shared table page).isSome = true
  | .translate _ t => (y.walk t).isOk = true
  | _ => True

end Summary

/-! ## The walk -/

theorem fitsIn_iff_carries {bits : UInt32} {a : UInt64} : fitsIn a bits = true ↔ Carries bits a := by
  have ha := a.toNat_lt
  rw [fitsIn, Carries, Bool.or_eq_true, decide_eq_true_eq, beq_iff_eq, Nat.shiftRight_eq_div_pow,
    Nat.div_eq_zero_iff_lt (Nat.two_pow_pos _)]
  constructor
  · rintro (hbits | hlt)
    · have hle : 64 ≤ bits.toNat := by simpa [UInt32.le_iff_toNat_le] using hbits
      exact Nat.lt_of_lt_of_le ha (Nat.pow_le_pow_right (by decide) hle)
    · exact hlt
  · exact Or.inr

/-- The frame's address for `a` is where the mapping moves it. -/
theorem inPage_entry (m : Mapping) (a : UInt64) : inPage m.entry.physical a = moved m a :=
  inPage_pageBase m.physical a

/-- A table that holds the entry of a page's mapping answers as the mapping does. -/
theorem lookStage_eq {stage : Stage} {table : PageTable} {mapping : Option Mapping} {a : UInt64}
    {t : Transaction} (h : table.lookup a = mapping.map Mapping.entry) :
    lookStage stage table a t = (look stage mapping a t).map Mapping.entry := by
  rw [lookStage, PageTable.check, PageTable.resolve, h]
  cases mapping with
  | none => rfl
  | some m =>
    have hentry : m.entry.valid = true ∧ m.entry.security = m.security ∧
        m.entry.permissions = m.permissions := ⟨rfl, rfl, rfl⟩
    simp only [Option.map_some, hentry, if_true]
    rw [look]
    by_cases hs : m.security = .nonSecure ∨ m.security = t.security
    · rw [if_pos (Security.canAccess_iff.2 hs), if_neg (not_not_intro hs)]
      cases m.permissions.allows t.access <;> rfl
    · rw [if_neg (mt Security.canAccess_iff.1 hs), if_pos hs]
      rfl

/-- One stage that answers is the whole translation. -/
theorem throughOne_eq (r : Except StageFault Mapping) (t : Transaction) :
    (r.map Mapping.entry).map (throughOne t) = (do
      let m ← r
      return .walked (moved m t.address) none m.permissions t.security) := by
  cases r with
  | error f => rfl
  | ok m =>
    show Except.ok (throughOne t m.entry) = _
    rw [throughOne, inPage_entry]
    rfl

namespace Session

/-- A settled operation answers `ok` exactly when it made a stream. -/
theorem isOk_settle {x : Session} {r : Except Error Stream} :
    (x.settle r).2.isOk = true ↔ ∃ s, r = .ok s := by
  cases r with
  | error e =>
    constructor
    · intro hok
      cases hok
    · rintro ⟨s, hs⟩
      cases hs
  | ok s => exact iff_of_true rfl ⟨s, rfl⟩

theorem isOk_settleFlag {x : Session} {r : Except Error (Stream × Bool)} :
    (x.settleFlag r).2.isOk = true ↔ ∃ s b, r = .ok (s, b) := by
  cases r with
  | error e =>
    constructor
    · intro hok
      cases hok
    · rintro ⟨s, b, hs⟩
      cases hs
  | ok r => exact iff_of_true rfl ⟨r.1, r.2, rfl⟩

end Session

namespace Follows

variable {y : Summary} {x : Session}

/-- The stream admits the PASIDs that the summary permits. -/
theorem admitsPasid_iff (hf : Follows y x) (pasid : Pasid) :
    x.stream.admitsPasid pasid = true ↔ y.Permits pasid := by
  have hmax : maxPasid.toNat = 1048575 := rfl
  have hrange : pasid ≤ maxPasid ↔ pasid.toNat < 2 ^ 20 := by
    rw [UInt32.le_iff_toNat_le, hmax]
    omega
  rw [admitsPasid, hf.limits, Summary.Permits, Bool.and_eq_true, decide_eq_true_eq, hrange,
    Bool.or_eq_true, decide_eq_true_eq, imp_iff_not_or]

/-- The summary knows which PASIDs are present. -/
theorem present_eq (hf : Follows y x) (pasid : Pasid) :
    y.present pasid = x.stream.pasids[pasid]?.isSome := by
  rw [← hf.present, hasPasid, Std.ExtTreeMap.contains_eq_isSome_getElem?]

/-- The first stage finds the summary's mapping. -/
theorem look1_eq (hf : Follows y x) {t : Transaction} {first : PageTable}
    (hfirst : x.stream.pasids[t.pasid]? = some first) :
    lookStage .stage1 first t.address t = (y.look1 t).map Mapping.entry := by
  have hlookup := hf.mapping t.pasid t.address
  rw [hfirst] at hlookup
  exact lookStage_eq hlookup

/-- The second stage finds the summary's mapping, or reports what is missing. -/
theorem look2_eq (hf : Follows y x) (a : UInt64) (t : Transaction) :
    x.stream.lookStage2 (x.stream.table.map x.resources.table) a t =
      (y.look2 a t).map Mapping.entry := by
  rw [Summary.look2, hf.table]
  cases y.table with
  | none => rw [Option.map_none, lookStage2, hf.id]; rfl
  | some id => exact lookStage_eq (hf.shared id a)

/-- The stages together give the reference's answer. -/
theorem runStages_eq (hf : Follows y x) (ht : y.config.translationEnabled = true) {t : Transaction}
    {first : PageTable} (hfirst : x.stream.pasids[t.pasid]? = some first) :
    x.stream.runStages x.stream.config.stageMode first (x.stream.table.map x.resources.table) t =
      y.stages t := by
  have hmode : x.stream.config.stageMode = y.config.stageMode := by
    rw [hf.config]
    rfl
  have hvalid := hf.valid
  rw [StreamConfig.isValid, ht] at hvalid
  rw [hmode, StreamConfig.stageMode, ht, Summary.stages]
  cases h1 : y.config.stage1Enabled with
  | false =>
    -- a valid configuration that translates runs a stage
    have h2 : y.config.stage2Enabled = true := by simpa [h1] using hvalid
    rw [h2]
    dsimp only [runStages]
    rw [hf.look2_eq]
    exact throughOne_eq _ t
  | true =>
    cases y.config.stage2Enabled with
    | false =>
      dsimp only [runStages]
      rw [hf.look1_eq hfirst, throughOne_eq]
      rfl
    | true =>
      dsimp only [runStages]
      rw [hf.look1_eq hfirst]
      cases y.look1 t with
      | error f => rfl
      | ok m =>
        have hmiddle := hf.look2_eq (moved m t.address) t
        rw [← inPage_entry] at hmiddle
        dsimp only [Except.map]
        rw [hmiddle, inPage_entry]
        show _ = (y.look2 (moved m t.address) t >>= _)
        cases y.look2 (moved m t.address) t with
        | error f => rfl
        | ok m2 =>
          dsimp only [Except.map]
          rw [inPage_entry]
          rfl

/-- A stream answers every transaction as its history says. -/
theorem walk (hf : Follows y x) (t : Transaction) : x.walk t = y.walk t := by
  have htranslates : x.stream.config.translationEnabled = y.config.translationEnabled := by
    rw [hf.config]
  have hno : ¬true = false := by decide
  have hno' : ¬false = true := by decide
  rw [Session.walk, Stream.walk, walkWith, htranslates, Summary.walk]
  cases ht : y.config.translationEnabled with
  | false => rfl
  | true =>
    rw [if_pos rfl, if_neg hno, entryTable, hf.enabled, hf.id, hf.limits]
    cases y.enabled with
    | false => rfl
    | true =>
      rw [if_neg hno, Bool.not_true, if_neg hno']
      by_cases hpermits : y.Permits t.pasid
      · rw [(hf.admitsPasid_iff t.pasid).2 hpermits, Bool.not_true, if_neg hno',
          if_neg (not_not_intro hpermits)]
        cases hfirst : x.stream.pasids[t.pasid]? with
        | none =>
          have habsent : y.present t.pasid = false := by rw [hf.present_eq, hfirst]; rfl
          rw [pasidTable, hfirst, hf.id, if_pos habsent]
        | some first =>
          have hpresent : ¬y.present t.pasid = false := by rw [hf.present_eq, hfirst]; exact hno
          rw [pasidTable_eq_ok_iff.2 hfirst, if_neg hpresent]
          by_cases hcarries : Carries y.limits.inputBits t.address
          · rw [if_neg (not_not_intro hcarries)]
            dsimp only
            rw [if_pos (fitsIn_iff_carries.2 hcarries)]
            exact hf.runStages_eq ht hfirst
          · rw [if_pos hcarries]
            dsimp only
            rw [if_neg (mt fitsIn_iff_carries.1 hcarries)]
      · have hrefused : (!x.stream.admitsPasid t.pasid) = true := by
          rw [Bool.not_eq_true', ← Bool.not_eq_true, hf.admitsPasid_iff]
          exact hpermits
        rw [if_pos hrefused, if_pos hpermits]

/-! ## Acceptance -/

/-- The width check decides the summary's `Fits`. -/
theorem checkWidths_iff (hf : Follows y x) {m : Mapping} :
    x.stream.checkWidths m = .ok () ↔ y.Fits m := by
  rw [checkWidths_eq_ok_iff, hf.limits, Summary.Fits, fitsIn_iff_carries, fitsIn_iff_carries]

theorem checkAllWidths_iff (hf : Follows y x) {ms : List Mapping} :
    x.stream.checkAllWidths ms = .ok () ↔ ∀ m ∈ ms, y.Fits m := by
  rw [checkAllWidths_eq_ok_iff]
  exact forall₂_congr fun _ _ => hf.checkWidths_iff

/-- A change to the table of a PASID is accepted by the table, if it is there. -/
theorem editPasid_iff (hf : Follows y x) {pasid : Pasid} {change : PageTable.Op} :
    (∃ s b, x.stream.editPasid pasid change = .ok (s, b)) ↔ y.Takes pasid change := by
  rw [Summary.Takes, hf.present_eq, editPasid, pasidTable]
  cases ht : x.stream.pasids[pasid]? with
  | none => simp
  | some t =>
    have hheld : ∀ a, (y.mapping pasid (pageBase a)).isSome = true ↔ t.isMapped a = true := by
      intro a
      have hlookup := hf.mapping pasid a
      rw [ht, Option.bind_some] at hlookup
      rw [PageTable.isMapped, hlookup, Option.isSome_map]
    rw [← PageTable.step_isOk_iff hheld, Option.isSome_some, eq_self, true_and]
    dsimp only
    cases t.step change with
    | error e => simp [Except.isOk, Except.toBool]
    | ok r => simp [Except.isOk, Except.toBool]

/-- The PASIDs that are there are those that were made and not dropped since. -/
theorem pasidCount_eq {id : StreamId} {config : StreamConfig} {limits : StreamLimits} {h : List Op}
    (hf : Follows (summary id config limits h) x) :
    x.stream.pasidCount = (summary id config limits h).population := by
  have hnodup : x.stream.pasids.keys.Nodup :=
    Std.ExtTreeMap.distinct_keys.imp fun hne heq => hne (by simp [heq])
  have hmem : ∀ pasid, pasid ∈ x.stream.pasids.keys ↔
      pasid ∈ (h.filterMap Op.created).dedup.filter
        fun pasid => last (Op.newPresence pasid) false h := by
    intro pasid
    have hpresent : x.stream.hasPasid pasid = last (Op.newPresence pasid) false h :=
      hf.present pasid
    rw [Std.ExtTreeMap.mem_keys, List.mem_filter, List.mem_dedup, ← hpresent]
    refine ⟨fun hp => ⟨?_, hp⟩, fun hp => hp.2⟩
    -- no other operation makes a PASID present
    have hlast : last (Op.newPresence pasid) false h = true := hpresent.symm.trans hp
    rw [last] at hlast
    cases hwritten : h.findSome? (Op.newPresence pasid) with
    | none =>
      rw [hwritten] at hlast
      cases hlast
    | some b =>
      rw [hwritten] at hlast
      obtain ⟨op, hop, hnew⟩ := List.exists_of_findSome?_eq_some hwritten
      obtain rfl : b = true := hlast
      exact List.mem_filterMap.2 ⟨op, hop, Op.created_of_newPresence hnew⟩
  exact Std.ExtTreeMap.length_keys.symm.trans
    ((List.perm_ext_iff_of_nodup hnodup ((List.nodup_dedup _).filter _)).2 hmem).length_eq

/-- A PASID is created where it is permitted and is either present or has room. -/
theorem createPasid_iff (hf : Follows y x) (hpop : x.stream.pasidCount = y.population)
    {pasid : Pasid} : (∃ s, x.stream.createPasid pasid = .ok s) ↔
      y.Permits pasid ∧ (y.present pasid = true ∨ y.population < y.limits.maxPasids) := by
  rw [← hf.admitsPasid_iff, ← hf.present, ← hpop, ← hf.limits, Stream.createPasid]
  cases x.stream.admitsPasid pasid with
  | false => simp
  | true =>
    cases x.stream.hasPasid pasid with
    | true => simp
    | false =>
      by_cases hfull : x.stream.limits.maxPasids ≤ x.stream.pasidCount
      · simp [hfull]
      · simp [hfull, Nat.lt_of_not_le hfull]

/-- Which operations are accepted. -/
theorem accepts_iff (hf : Follows y x) (hpop : x.stream.pasidCount = y.population) (op : Op) :
    (x.step op).2.isOk = true ↔ y.Accepts op := by
  cases op with
  | configure c =>
    refine Session.isOk_settle.trans ?_
    rw [Summary.Accepts, configure, StreamConfig.isValid]
    cases c.translationEnabled <;> cases c.stage1Enabled <;> cases c.stage2Enabled <;> simp
  | createPasid pasid => exact Session.isOk_settle.trans (hf.createPasid_iff hpop)
  | removePasid pasid =>
    refine Session.isOk_settle.trans ?_
    show _ ↔ y.present pasid = true
    rw [Stream.removePasid, hf.present]
    cases y.present pasid <;> simp
  | map pasid m =>
    refine Session.isOk_settle.trans ?_
    simp only [map_eq_ok_iff_edit, exists_and_left, hf.checkWidths_iff, hf.editPasid_iff]
    rfl
  | unmap pasid a =>
    refine Session.isOk_settleFlag.trans ?_
    rw [unmap_eq_edit]
    exact hf.editPasid_iff
  | mapPages pasid ms =>
    refine Session.isOk_settle.trans ?_
    simp only [mapPages_eq_ok_iff_edit, exists_and_left, hf.checkAllWidths_iff, hf.editPasid_iff]
    rfl
  | unmapPages pasid as =>
    refine Session.isOk_settle.trans ?_
    simp only [unmapPages_eq_ok_iff_edit, hf.editPasid_iff]
    rfl
  | editPasid pasid change => exact Session.isOk_settleFlag.trans hf.editPasid_iff
  | editTable table change =>
    have hheld : ∀ a, (y.shared table (pageBase a)).isSome = true ↔
        (x.resources.table table).isMapped a = true := by
      intro a
      rw [PageTable.isMapped, hf.shared, Option.isSome_map]
    show _ ↔ change.Admissible fun page => (y.shared table page).isSome = true
    rw [← PageTable.step_isOk_iff hheld, Session.step, Session.editTable]
    cases (x.resources.table table).step change <;> rfl
  | translate clock t =>
    rw [Summary.Accepts, ← hf.walk, Session.walk, Session.step, Session.translate, resolve]
    cases x.stream.walk x.resources t <;> rfl
  | _ => exact iff_of_true rfl trivial

end Follows

/-! ## The theorem -/

/-- A stream that went through any operations answers every transaction as the reference does from the
    operations that were accepted, and the operations it accepts are those the reference accepts. -/
theorem Session.walk_follows_history {id : StreamId} {config : StreamConfig}
    {limits : StreamLimits} {x : Session} (hstart : Session.start id config limits = .ok x)
    (ops : List Op) :
    let y := summary id config limits (x.history ops)
    (∀ t, (x.run ops).1.walk t = y.walk t) ∧
      ∀ op, ((x.run ops).1.step op).2.isOk = true ↔ y.Accepts op := by
  intro y
  have hf : Follows y (x.run ops).1 := by
    have hrun := (Follows.start hstart).run ops
    rwa [List.append_nil] at hrun
  exact ⟨hf.walk, hf.accepts_iff hf.pasidCount_eq⟩

/-- A page is mapped twice under two of its addresses, lost with its PASID and mapped again; a list that
    names it twice is refused; and the page it leads to is mapped in the table for stage 2, which grants
    less.  Once it is unmapped there, the fault is of stage 2 and names the address in between. -/
theorem Session.walk_follows_history_remade :
    let m (a b : UInt64) (p : Permissions) : Mapping := ⟨a, b, p, .nonSecure⟩
    let ops : List Op := [.createPasid 5, .map 5 (m 0x1000 0x9000 .full),
      .map 5 (m 0x1FFF 0x5000 .full), .removePasid 5, .map 5 (m 0x1000 0x6000 .full), .createPasid 5,
      .map 5 (m 0x1ABC 0x3DEF ⟨true, true, false⟩), .createPasid 5,
      .mapPages 5 [m 0x1000 0x7000 .full, m 0x1001 0x8000 .full], .attachTable (some 2),
      .editTable 2 (.map (m 0x3000 0x8000 ⟨true, false, false⟩))]
    let t : Transaction := ⟨7, 5, 0x1234, .read, .nonSecure⟩
    let r : Translation := .walked 0x8234 (some 0x3234) ⟨true, false, false⟩ .nonSecure
    ∃ x, Session.start 7 .bothStages {} = .ok x ∧
      (x.run ops).1.walk t = .ok r ∧
      (x.run (ops ++ [.editTable 2 (.unmap 0x3FFF)])).1.walk t =
        .error ⟨.pageNotMapped 0x3234, .stage2⟩ ∧
      (x.history ops).length = 9 := by
  intro m ops t r
  obtain ⟨x, hx⟩ : ∃ x, Session.start 7 .bothStages {} = .ok x := ⟨_, rfl⟩
  obtain ⟨hwalk, -⟩ := Session.walk_follows_history hx ops
  obtain ⟨hunmapped, -⟩ := Session.walk_follows_history hx (ops ++ [.editTable 2 (.unmap 0x3FFF)])
  obtain rfl := Except.ok.inj hx
  refine ⟨_, rfl, (hwalk t).trans ?_, (hunmapped t).trans ?_, ?_⟩
  · decide +kernel
  · decide +kernel
  · decide +kernel

end Iommu.Stream
