/-
  One cached entry stands for its whole page.

  A walk that succeeded says, for every other address of the page and every access, what a walk would
  answer.  If the rights of the answer cover the access the walk succeeds, and its answer is that of the
  entry made from the first one (`walk_page`).  If they do not, the walk fails for want of a right and for
  nothing else: the transaction enters the stages as before, every entry that is read is there and open to
  the security state, and of the rights that the stages grant together one stage lacks the access
  (`walk_denied`).

  An address is moved by replacing its page.  Every table of a stream holds page bases, so that is to put
  the offset into the low bits of a frame (`Follows.framed`).
-/
import Iommu.Proofs.Stream.Reference

namespace Iommu

/-- Stage 1 runs in two of the modes of a stream that translates. -/
theorem StreamConfig.stage1Enabled_iff {c : StreamConfig} (ht : c.translationEnabled = true) :
    c.stage1Enabled = true ↔ c.stageMode = .stage1Only ∨ c.stageMode = .bothStages := by
  rw [stageMode, ht]
  cases c.stage1Enabled <;> cases c.stage2Enabled <;> decide

namespace PageTable

/-- An entry refuses every access that it does not allow, anywhere in its page. -/
theorem Grants.denied {t : PageTable} {a b : UInt64} {access access' : Access} {security : Security}
    {e : PageEntry} (h : t.Grants a access security e) (hp : pageBase b = pageBase a)
    (hd : e.permissions.allows access' = false) :
    t.check b access' security = .error (.permissionViolation b access') := by
  rw [check, resolve, (t.lookup_congr hp).trans h.present]
  simp [h.valid, h.security, hd]

/-- Moving an address to a page of the table puts its offset into the low bits of the frame. -/
def Framed (t : PageTable) : Prop :=
  ∀ a e, t.lookup a = some e → ∀ b, inPage e.physical b = e.physical ||| pageOffset b

/-- A table whose lookup depends on the page only is framed. -/
theorem framed_of_lookup {t : PageTable} (mapping : UInt64 → Option Mapping)
    (h : ∀ a, t.lookup a = (mapping (pageBase a)).map Mapping.entry) : t.Framed := by
  intro a e he b
  rw [h] at he
  obtain ⟨m, -, rfl⟩ := Option.map_eq_some_iff.1 he
  exact congrArg (· ||| pageOffset b) (pageBase_pageBase m.physical)

end PageTable

namespace Stream

/-- Every table of a session is framed. -/
structure Session.Framed (x : Session) : Prop where
  pasid : ∀ (pasid : Pasid) (t : PageTable), x.stream.pasids[pasid]? = some t → t.Framed
  shared : ∀ id : TableId, (x.resources.table id).Framed

/-- Following a summary makes all of a session's tables framed. -/
theorem Follows.framed {y : Summary} {x : Session} (hf : Follows y x) : x.Framed where
  pasid pasid t ht := PageTable.framed_of_lookup (y.mapping pasid) fun a => by
    have hlookup := hf.mapping pasid a
    rwa [ht] at hlookup
  shared id := PageTable.framed_of_lookup (y.shared id) (hf.shared id)

/-! ## Walks that are denied -/

/-- Whether stage 1 runs and the entry it reads does not allow the access. -/
def firstDenies (s : Stream) (t : Transaction) : Bool :=
  s.config.stage1Enabled && (s.pasids[t.pasid]?.bind fun table => table.lookup t.address).any
    fun e => !e.permissions.allows t.access

/-- Stage 1 denies by its entry's permissions, when it runs. -/
theorem firstDenies_of_lookup {s : Stream} {t : Transaction} {table : PageTable} {e : PageEntry}
    (htable : s.pasids[t.pasid]? = some table) (he : table.lookup t.address = some e) :
    s.firstDenies t = (s.config.stage1Enabled && !e.permissions.allows t.access) := by
  rw [firstDenies, htable, Option.bind_some, he, Option.any_some]

/-- An access the entry does not allow is a permission fault, anywhere in the page. -/
theorem lookStage_denied {stage : Stage} {table : PageTable} {a b : UInt64} {t t' : Transaction}
    {e : PageEntry} (h : table.Grants a t.access t.security e) (hp : pageBase b = pageBase a)
    (hs : t'.security = t.security) (hd : e.permissions.allows t'.access = false) :
    lookStage stage table b t' = .error ⟨.permissionViolation b t'.access, stage⟩ := by
  rw [lookStage, hs, h.denied hp hd]

/-- A page once translated answers a forbidden access with a permission fault of the denying
    stage. -/
theorem walk_denied {s : Stream} {r : Resources} {t t' : Transaction} {x : Translation}
    (hbits : 12 ≤ s.limits.inputBits.toNat) (h : s.walk r t = .ok x) (hb : x.bypassed = false)
    (hpasid : t'.pasid = t.pasid) (hp : pageBase t'.address = pageBase t.address)
    (hs : t'.security = t.security) (hd : x.permissions.allows t'.access = false) :
    (s.firstDenies t' = true →
      s.walk r t' = .error ⟨.permissionViolation t'.address t'.access, .stage1⟩) ∧
    (s.firstDenies t' = false → s.walk r t' = .error
      ⟨.permissionViolation ((x.atAddress t'.address).intermediate.getD t'.address) t'.access,
        .stage2⟩) := by
  have ht := translationEnabled_of_walk h hb
  obtain ⟨first, he, hans⟩ := (walk_eq_ok_iff ht).1 h
  have he' : s.Enters t' first := he.page hbits hpasid hp
  have hruns := StreamConfig.stage1Enabled_iff ht
  rw [walk_of_enters ht he']
  generalize s.config.stageMode = mode at hans hruns
  cases hans with
  | bypass => cases hb
  | @stage1Only e hg =>
    have hlook : first.lookup t'.address = some e := (first.lookup_congr hp).trans hg.present
    have hlacks : e.permissions.allows t'.access = false := hd
    rw [firstDenies_of_lookup he'.present hlook, hruns.2 (Or.inl rfl), hlacks, runStages,
      lookStage_denied hg hp hs hlacks]
    exact ⟨fun _ => rfl, fun hno => by cases hno⟩
  | @stage2Only table e htable hg =>
    have hoff : s.config.stage1Enabled = false := by
      simpa using mt hruns.1 (by simp)
    rw [firstDenies, hoff, runStages, htable, lookStage2, lookStage_denied hg hp hs hd]
    exact ⟨(fun hno => by cases hno), fun _ => rfl⟩
  | @bothStages table e1 e2 hg1 htable hg2 =>
    have hlook : first.lookup t'.address = some e1 := (first.lookup_congr hp).trans hg1.present
    rw [firstDenies_of_lookup he'.present hlook, hruns.2 (Or.inr rfl), Bool.true_and, runStages]
    cases ha1 : e1.permissions.allows t'.access with
    | false =>
      rw [lookStage_denied hg1 hp hs ha1]
      exact ⟨fun _ => rfl, fun hno => by cases hno⟩
    | true =>
      have hd2 : e2.permissions.allows t'.access = false := by
        simpa [Translation.walked, Permissions.allows_inter, ha1] using hd
      -- the input of stage 2 stays in its page, since only its offset changes
      have hmid : pageBase (inPage e1.physical t'.address) =
          pageBase (inPage e1.physical t.address) := by
        rw [pageBase_inPage, pageBase_inPage]
      rw [lookStage_eq_ok_iff.2 (hg1.page hp hs ha1)]
      dsimp only
      rw [htable, lookStage2, lookStage_denied hg2 hmid hs hd2]
      refine ⟨(fun hno => by cases hno), fun _ => ?_⟩
      simp [Translation.walked, Translation.atAddress, inPage_inPage]

/-! ## The theorem -/

/-- In every state that a stream is brought to, a walk that succeeded decides the walks of its page: for
    the accesses that the entry made from it allows they answer what the entry does, and for the others
    they lack a right, at stage 1 if that is where it is missing and else at stage 2. -/
theorem Session.entry_stands_for_page {id : StreamId} {config : StreamConfig}
    {limits : StreamLimits} {x₀ : Session} (hstart : Session.start id config limits = .ok x₀)
    (ops : List Op) :
    let x := (x₀.run ops).1
    x.Framed ∧ ∀ (t t' : Transaction) (r : Translation),
      12 ≤ x.stream.limits.inputBits.toNat → x.walk t = .ok r → r.bypassed = false →
      t'.pasid = t.pasid → pageBase t'.address = pageBase t.address → t'.security = t.security →
      let e := TlbEntry.ofTranslation id t.pasid t.address r
      (e.permissions.allows t'.access = true →
        x.walk t' = .ok { e.toTranslation t'.address with cacheHit := false }) ∧
      (e.permissions.allows t'.access = false →
        (x.stream.firstDenies t' = true →
          x.walk t' = .error ⟨.permissionViolation t'.address t'.access, .stage1⟩) ∧
        (x.stream.firstDenies t' = false →
          x.walk t' = .error ⟨.permissionViolation
            ((e.toTranslation t'.address).intermediate.getD t'.address) t'.access, .stage2⟩)) := by
  intro x
  refine ⟨((Follows.start hstart).run ops).framed, ?_⟩
  intro t t' r hbits h hb hpasid hpage hsecurity e
  have hentry := Translation.atAddress_eq hb (security_of_walk h).2 id t.pasid t.address t'.address
  refine ⟨fun ha => ?_, fun hd => ?_⟩
  · rw [← hentry]
    exact walk_page hbits h hb hpasid hpage hsecurity ha
  · have hmiddle : (r.atAddress t'.address).intermediate = (e.toTranslation t'.address).intermediate := by
      rw [hentry]
    rw [← hmiddle]
    exact walk_denied hbits h hb hpasid hpage hsecurity hd

/-- A page that stage 1 opens to reads and writes leads to one that stage 2 opens to reads and fetches.
    The entry made from a read of one of its bytes grants reads alone, of any other byte.  A write passes
    stage 1 and is stopped behind it, and a fetch does not get that far. -/
theorem Session.entry_stands_for_page_two_stages :
    let ops : List Op := [.createPasid 5, .map 5 ⟨0x1ABC, 0x3DEF, ⟨true, true, false⟩, .nonSecure⟩,
      .attachTable (some 2), .editTable 2 (.map ⟨0x3000, 0x8000, ⟨true, false, true⟩, .nonSecure⟩)]
    let ask (a : UInt64) (access : Access) : Transaction := ⟨7, 5, a, access, .nonSecure⟩
    let r : Translation := .walked 0x8234 (some 0x3234) ⟨true, false, false⟩ .nonSecure
    ∃ x₀, Session.start 7 .bothStages {} = .ok x₀ ∧
      (x₀.run ops).1.walk (ask 0x1234 .read) = .ok r ∧
      (x₀.run ops).1.walk (ask 0x1FFF .read) =
        .ok (.walked 0x8FFF (some 0x3FFF) ⟨true, false, false⟩ .nonSecure) ∧
      (x₀.run ops).1.walk (ask 0x1FFF .write) =
        .error ⟨.permissionViolation 0x3FFF .write, .stage2⟩ ∧
      (x₀.run ops).1.walk (ask 0x1FFF .execute) =
        .error ⟨.permissionViolation 0x1FFF .execute, .stage1⟩ := by
  intro ops ask r
  obtain ⟨x₀, hx⟩ : ∃ x₀, Session.start 7 .bothStages {} = .ok x₀ := ⟨_, rfl⟩
  obtain ⟨-, hpage⟩ := Session.entry_stands_for_page hx ops
  obtain rfl := Except.ok.inj hx
  have hread := hpage (ask 0x1234 .read) (ask 0x1FFF .read) r (by decide +kernel)
    (by decide +kernel) rfl rfl (by decide +kernel) rfl
  have hwrite := hpage (ask 0x1234 .read) (ask 0x1FFF .write) r (by decide +kernel)
    (by decide +kernel) rfl rfl (by decide +kernel) rfl
  have hfetch := hpage (ask 0x1234 .read) (ask 0x1FFF .execute) r (by decide +kernel)
    (by decide +kernel) rfl rfl (by decide +kernel) rfl
  refine ⟨_, rfl, by decide +kernel, (hread.1 rfl).trans ?_, ((hwrite.2 rfl).2 ?_).trans ?_,
    (hfetch.2 rfl).1 ?_⟩
  · decide +kernel
  · decide +kernel
  · decide +kernel
  · decide +kernel

end Stream

end Iommu
