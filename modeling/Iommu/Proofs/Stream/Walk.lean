/-
  What a walk of the tables answers, and what the answer depends on.

  `Grants` says that a table lets an access through at an address, and by which entry; `Answers` says
  how each mode of stages puts such entries together.  Both describe success only, and they describe
  it exactly (`check_eq_ok_iff`, `runStages_eq_ok_iff`).

  The two facts the cache lives on follow.  A walk answers a page, not an address: where one address
  of a page is walked, every other address of it is, for every access that the answer's rights cover
  (`walk_page`).  And a walk depends on the stream only through its stages, its limits and the page it
  reads (`Keeps.walk`), so a change elsewhere leaves the answer as it was.
-/
import Iommu.Stream.Walk
import Iommu.Tlb

namespace Iommu

theorem inPage_inPage (frame a b : UInt64) : inPage (inPage frame a) b = inPage frame b := by
  rw [inPage, pageBase_inPage, inPage]

theorem inPage_pageBase (frame a : UInt64) : inPage (pageBase frame) a = inPage frame a := by
  rw [inPage, pageBase_pageBase, inPage]

/-- Two addresses are in one page when they have the same page number. -/
theorem pageBase_eq_iff {a b : UInt64} : pageBase a = pageBase b ↔ a.toNat / 4096 = b.toNat / 4096 := by
  rw [← UInt64.toNat_inj, pageBase_toNat, pageBase_toNat]
  omega

/-- A bus that carries an address carries its whole page, if it is wide enough for offsets. -/
theorem fitsIn_congr {a b : UInt64} {bits : UInt32} (hb : 12 ≤ bits.toNat)
    (h : pageBase a = pageBase b) : fitsIn a bits = fitsIn b bits := by
  have hpage : a.toNat / 4096 = b.toNat / 4096 := pageBase_eq_iff.1 h
  have hshift : a.toNat >>> bits.toNat = b.toNat >>> bits.toNat := by
    obtain ⟨n, hn⟩ := Nat.exists_eq_add_of_le hb
    rw [hn, Nat.shiftRight_add, Nat.shiftRight_add, Nat.shiftRight_eq_div_pow a.toNat 12,
      Nat.shiftRight_eq_div_pow b.toNat 12]
    exact congrArg (· >>> n) hpage
  rw [fitsIn, fitsIn, hshift]

/-- The translation of another address of the same page. -/
def Translation.atAddress (r : Translation) (a : UInt64) : Translation :=
  { r with physical := inPage r.physical a
           intermediate := r.intermediate.map fun middle => inPage middle a }

/-- The entry made from a translation gives it back, at any address of the page. -/
theorem Translation.atAddress_eq {r : Translation} (hb : r.bypassed = false)
    (hhit : r.cacheHit = false) (id : StreamId) (pasid : Pasid) (a b : UInt64) :
    r.atAddress b =
      { (TlbEntry.ofTranslation id pasid a r).toTranslation b with cacheHit := false } := by
  rcases r with ⟨physical, intermediate, permissions, security, cacheHit, bypassed⟩
  obtain rfl : cacheHit = false := hhit
  obtain rfl : bypassed = false := hb
  simp [atAddress, TlbEntry.toTranslation, TlbEntry.ofTranslation, TlbEntry.ofPage, inPage_pageBase,
    Function.comp_def]

namespace PageTable

/-- The table lets an access through at an address, by the entry `e`. -/
structure Grants (t : PageTable) (a : UInt64) (access : Access) (security : Security)
    (e : PageEntry) : Prop where
  present : t.lookup a = some e
  valid : e.valid = true
  security : security.canAccess e.security = true
  permission : e.permissions.allows access = true

/-- An entry passes the check when the table grants the access. -/
theorem check_eq_ok_iff {t : PageTable} {a : UInt64} {access : Access} {security : Security}
    {e : PageEntry} : t.check a access security = .ok e ↔ t.Grants a access security e := by
  constructor
  · intro h
    simp only [check, resolve] at h
    split at h
    · cases h
    · rename_i x hx
      split at hx
      · rename_i y hy
        split at hx
        · rename_i hv
          obtain rfl : y = x := Except.ok.inj hx
          split at h
          · rename_i hs
            split at h
            · rename_i hp
              obtain rfl : y = e := Except.ok.inj h
              exact ⟨hy, hv, hs, hp⟩
            · cases h
          · cases h
        · cases hx
      · cases hx
  · intro h
    rw [check, resolve, h.present]
    simp [h.valid, h.security, h.permission]

/-- An entry lets a transaction through anywhere in its page, for every access it allows. -/
theorem Grants.page {t : PageTable} {a b : UInt64} {access access' : Access}
    {security security' : Security} {e : PageEntry} (h : t.Grants a access security e)
    (hp : pageBase b = pageBase a) (hs : security' = security)
    (ha : e.permissions.allows access' = true) : t.Grants b access' security' e :=
  ⟨(t.lookup_congr hp).trans h.present, h.valid, hs ▸ h.security, ha⟩

end PageTable

namespace Stream

/-! ## Answers of the stages -/

/-- How the stages of a mode answer a transaction. -/
inductive Answers (first : PageTable) (second : Option PageTable) (t : Transaction) :
    StageMode → Translation → Prop
  | bypass : Answers first second t .bypass (.bypass t.address t.security)
  | stage1Only {e : PageEntry} : first.Grants t.address t.access t.security e →
      Answers first second t .stage1Only (throughOne t e)
  | stage2Only {table : PageTable} {e : PageEntry} : second = some table →
      table.Grants t.address t.access t.security e →
      Answers first second t .stage2Only (throughOne t e)
  | bothStages {table : PageTable} {e1 e2 : PageEntry} :
      first.Grants t.address t.access t.security e1 → second = some table →
      table.Grants (inPage e1.physical t.address) t.access t.security e2 →
      Answers first second t .bothStages
        (.walked (inPage e2.physical t.address) (some (inPage e1.physical t.address))
          (e1.permissions.inter e2.permissions) t.security)

/-- A stage answers with the entry that its table grants. -/
theorem lookStage_eq_ok_iff {stage : Stage} {table : PageTable} {a : UInt64} {t : Transaction}
    {e : PageEntry} :
    lookStage stage table a t = .ok e ↔ table.Grants a t.access t.security e := by
  rw [← PageTable.check_eq_ok_iff, lookStage]
  split
  · rename_i x hx
    rw [hx, Except.ok.injEq, Except.ok.injEq]
  · rename_i x hx
    rw [hx]
    exact ⟨nofun, nofun⟩

/-- The second stage answers only with a table attached that grants the access. -/
theorem lookStage2_eq_ok_iff {s : Stream} {second : Option PageTable} {a : UInt64}
    {t : Transaction} {e : PageEntry} : s.lookStage2 second a t = .ok e ↔
      ∃ table, second = some table ∧ table.Grants a t.access t.security e := by
  cases second with
  | none => exact ⟨nofun, nofun⟩
  | some table =>
    rw [lookStage2, lookStage_eq_ok_iff]
    constructor
    · intro h
      exact ⟨table, rfl, h⟩
    · rintro ⟨table', ht, h⟩
      obtain rfl := Option.some.inj ht
      exact h

theorem map_eq_ok_iff {ε α β : Type} {x : Except ε α} {f : α → β} {b : β} :
    x.map f = .ok b ↔ ∃ a, x = .ok a ∧ f a = b := by
  cases x <;> simp [Except.map]

/-- The stages succeed exactly with what `Answers` says of their mode. -/
theorem runStages_eq_ok_iff {s : Stream} {mode : StageMode} {first : PageTable}
    {second : Option PageTable} {t : Transaction} {r : Translation} :
    s.runStages mode first second t = .ok r ↔ Answers first second t mode r := by
  cases mode with
  | bypass =>
    rw [runStages, Except.ok.injEq]
    constructor
    · rintro rfl
      exact .bypass
    · rintro ⟨⟩
      rfl
  | stage1Only =>
    rw [runStages, map_eq_ok_iff]
    constructor
    · rintro ⟨e, h, rfl⟩
      exact .stage1Only (lookStage_eq_ok_iff.1 h)
    · rintro (_ | h)
      exact ⟨_, lookStage_eq_ok_iff.2 h, rfl⟩
  | stage2Only =>
    rw [runStages, map_eq_ok_iff]
    constructor
    · rintro ⟨e, h, rfl⟩
      obtain ⟨table, hs, hg⟩ := lookStage2_eq_ok_iff.1 h
      exact .stage2Only hs hg
    · rintro (_ | _ | ⟨hs, hg⟩)
      exact ⟨_, lookStage2_eq_ok_iff.2 ⟨_, hs, hg⟩, rfl⟩
  | bothStages =>
    rw [runStages]
    constructor
    · intro h
      split at h
      · cases h
      · rename_i e1 h1
        dsimp only at h
        split at h
        · cases h
        · rename_i e2 h2
          obtain ⟨table, hs, hg⟩ := lookStage2_eq_ok_iff.1 h2
          obtain rfl := Except.ok.inj h
          exact .bothStages (lookStage_eq_ok_iff.1 h1) hs hg
    · rintro (_ | _ | _ | ⟨h1, hs, h2⟩)
      rw [lookStage_eq_ok_iff.2 h1]
      dsimp only
      rw [lookStage2_eq_ok_iff.2 ⟨_, hs, h2⟩]

/-- The stages answer a page: they answer every address of it alike, for every access that the
    rights of the answer cover. -/
theorem Answers.page {first : PageTable} {second : Option PageTable} {t t' : Transaction}
    {mode : StageMode} {r : Translation} (h : Answers first second t mode r)
    (hb : r.bypassed = false) (hp : pageBase t'.address = pageBase t.address)
    (hs : t'.security = t.security) (ha : r.permissions.allows t'.access = true) :
    Answers first second t' mode (r.atAddress t'.address) := by
  cases h with
  | bypass => cases hb
  | stage1Only hg =>
    have ht : Answers first second t' .stage1Only _ := .stage1Only (hg.page hp hs ha)
    simpa [throughOne, Translation.walked, Translation.atAddress, inPage_inPage, hs] using ht
  | stage2Only htab hg =>
    have ht : Answers first second t' .stage2Only _ := .stage2Only htab (hg.page hp hs ha)
    simpa [throughOne, Translation.walked, Translation.atAddress, inPage_inPage, hs] using ht
  | @bothStages table e1 e2 hg1 htab hg2 =>
    have hboth : e1.permissions.allows t'.access = true ∧
        e2.permissions.allows t'.access = true := by
      simpa [Translation.walked, Permissions.allows_inter] using ha
    have hg1' := hg1.page hp hs hboth.1
    -- stage 2 is asked for the same page, since the offset is all that changes of its input
    have hmid : pageBase (inPage e1.physical t'.address) =
        pageBase (inPage e1.physical t.address) := by
      rw [pageBase_inPage, pageBase_inPage]
    have hg2' := hg2.page hmid hs hboth.2
    have ht := Answers.bothStages hg1' htab hg2'
    simpa [Translation.walked, Translation.atAddress, inPage_inPage, hs] using ht

/-- An answer reads the first table at the transaction's address only. -/
theorem Answers.congr {first first' : PageTable} {second : Option PageTable} {t : Transaction}
    {mode : StageMode} {r : Translation} (h : Answers first second t mode r)
    (hl : first'.lookup t.address = first.lookup t.address) : Answers first' second t mode r := by
  cases h with
  | bypass => exact .bypass
  | stage1Only hg => exact .stage1Only { hg with present := hl.trans hg.present }
  | stage2Only htab hg => exact .stage2Only htab hg
  | bothStages hg1 htab hg2 =>
    exact .bothStages { hg1 with present := hl.trans hg1.present } htab hg2

theorem Answers.security_eq {first : PageTable} {second : Option PageTable} {t : Transaction}
    {mode : StageMode} {r : Translation} (h : Answers first second t mode r) :
    r.security = t.security ∧ r.cacheHit = false := by
  cases h <;> exact ⟨rfl, rfl⟩

/-! ## Entry to the stages -/

/-- A PASID has a table when it is present. -/
theorem pasidTable_eq_ok_iff {s : Stream} {pasid : Pasid} {table : PageTable} :
    s.pasidTable pasid = .ok table ↔ s.pasids[pasid]? = some table := by
  rw [pasidTable]
  split
  · rename_i h
    rw [h, Except.ok.injEq, Option.some.injEq]
  · rename_i h
    rw [h]
    exact ⟨nofun, nofun⟩

/-- A transaction that reaches the stages, and the table it reaches them with. -/
structure Enters (s : Stream) (t : Transaction) (first : PageTable) : Prop where
  enabled : s.enabled = true
  admitted : s.admitsPasid t.pasid = true
  present : s.pasids[t.pasid]? = some first
  fits : fitsIn t.address s.limits.inputBits = true

/-- The walk starts in the table the transaction enters. -/
theorem entryTable_eq_ok_iff {s : Stream} {t : Transaction} {first : PageTable} :
    s.entryTable t = .ok first ↔ s.Enters t first := by
  constructor
  · intro h
    rw [entryTable] at h
    split at h
    · cases h
    · rename_i he
      split at h
      · cases h
      · rename_i hp
        split at h
        · cases h
        · rename_i table ht
          split at h
          · rename_i hf
            obtain rfl := Except.ok.inj h
            exact ⟨by simpa using he, by simpa using hp, pasidTable_eq_ok_iff.1 ht, hf⟩
          · cases h
  · intro h
    rw [entryTable, pasidTable_eq_ok_iff.2 h.present]
    simp [h.enabled, h.admitted, h.fits]

/-- A transaction enters wherever another of its PASID and page does. -/
theorem Enters.page {s : Stream} {t t' : Transaction} {first : PageTable} (h : s.Enters t first)
    (hbits : 12 ≤ s.limits.inputBits.toNat) (hpasid : t'.pasid = t.pasid)
    (hp : pageBase t'.address = pageBase t.address) : s.Enters t' first := by
  refine ⟨h.enabled, ?_, ?_, ?_⟩
  · rw [hpasid]
    exact h.admitted
  · rw [hpasid]
    exact h.present
  · rw [fitsIn_congr hbits hp]
    exact h.fits

/-- A transaction that enters is answered by the stages. -/
theorem walk_of_enters {s : Stream} {r : Resources} {t : Transaction} {first : PageTable}
    (ht : s.config.translationEnabled = true) (h : s.Enters t first) :
    s.walk r t = s.runStages s.config.stageMode first (s.table.map r.table) t := by
  rw [walk, walkWith, if_pos ht, entryTable_eq_ok_iff.2 h]

/-- A walk that translates succeeds exactly when the transaction enters and the stages answer. -/
theorem walk_eq_ok_iff {s : Stream} {r : Resources} {t : Transaction} {x : Translation}
    (ht : s.config.translationEnabled = true) : s.walk r t = .ok x ↔
      ∃ first, s.Enters t first ∧ Answers first (s.table.map r.table) t s.config.stageMode x := by
  constructor
  · intro h
    rw [walk, walkWith, if_pos ht] at h
    split at h
    · cases h
    · rename_i first hf
      exact ⟨first, entryTable_eq_ok_iff.1 hf, runStages_eq_ok_iff.1 h⟩
  · rintro ⟨first, he, ha⟩
    rw [walk_of_enters ht he]
    exact runStages_eq_ok_iff.2 ha

/-- A translation that is no bypass was made by a stream that translates. -/
theorem translationEnabled_of_walk {s : Stream} {r : Resources} {t : Transaction} {x : Translation}
    (h : s.walk r t = .ok x) (hb : x.bypassed = false) : s.config.translationEnabled = true := by
  cases ht : s.config.translationEnabled with
  | true => rfl
  | false =>
    rw [walk_of_not_translationEnabled ht, Except.ok.injEq] at h
    rw [← h] at hb
    cases hb

/-- A walk keeps the security state and is no cache hit. -/
theorem security_of_walk {s : Stream} {r : Resources} {t : Transaction} {x : Translation}
    (h : s.walk r t = .ok x) : x.security = t.security ∧ x.cacheHit = false := by
  cases ht : s.config.translationEnabled with
  | true =>
    obtain ⟨first, -, ha⟩ := (walk_eq_ok_iff ht).1 h
    exact ha.security_eq
  | false =>
    rw [walk_of_not_translationEnabled ht, Except.ok.injEq] at h
    rw [← h]
    exact ⟨rfl, rfl⟩

/-! ## What a walk depends on -/

/-- A walk answers a page: where it answers one address, it answers every address of the page. -/
theorem walk_page {s : Stream} {r : Resources} {t t' : Transaction} {x : Translation}
    (hbits : 12 ≤ s.limits.inputBits.toNat) (h : s.walk r t = .ok x) (hb : x.bypassed = false)
    (hpasid : t'.pasid = t.pasid) (hp : pageBase t'.address = pageBase t.address)
    (hs : t'.security = t.security) (ha : x.permissions.allows t'.access = true) :
    s.walk r t' = .ok (x.atAddress t'.address) := by
  have ht := translationEnabled_of_walk h hb
  obtain ⟨first, he, hans⟩ := (walk_eq_ok_iff ht).1 h
  exact (walk_eq_ok_iff ht).2 ⟨first, he.page hbits hpasid hp, hans.page hb hp hs ha⟩

/-- Everything that a walk of a page of a PASID reads in `s` stands in `s'` too. -/
structure Keeps (s s' : Stream) (pasid : Pasid) (page : UInt64) : Prop where
  translationEnabled : s'.config.translationEnabled = s.config.translationEnabled
  stageMode : s'.config.stageMode = s.config.stageMode
  enabled : s.enabled = true → s'.enabled = true
  limits : s'.limits = s.limits
  table : s'.table = s.table
  pages : ∀ first, s.pasids[pasid]? = some first →
    ∃ first', s'.pasids[pasid]? = some first' ∧ first'.lookup page = first.lookup page

/-- A stream that keeps a page keeps its successful walks. -/
theorem Keeps.walk {s s' : Stream} {t : Transaction} {page : UInt64} {x : Translation}
    (hk : s.Keeps s' t.pasid page) {r r' : Resources}
    (hr : ∀ id, s.table = some id → r'.table id = r.table id)
    (hp : pageBase t.address = pageBase page) (h : s.walk r t = .ok x) : s'.walk r' t = .ok x := by
  cases ht : s.config.translationEnabled with
  | false =>
    rw [walk_of_not_translationEnabled ht] at h
    rw [walk_of_not_translationEnabled (hk.translationEnabled.trans ht), h]
  | true =>
    have ht' := hk.translationEnabled.trans ht
    obtain ⟨first, he, ha⟩ := (walk_eq_ok_iff ht).1 h
    obtain ⟨first', hpres, hlook⟩ := hk.pages first he.present
    have he' : s'.Enters t first' := by
      refine ⟨hk.enabled he.enabled, ?_, hpres, ?_⟩
      · rw [admitsPasid, hk.limits]
        exact he.admitted
      · rw [hk.limits]
        exact he.fits
    have hsecond : s'.table.map r'.table = s.table.map r.table := by
      rw [hk.table]
      cases htab : s.table with
      | none => rfl
      | some id => exact congrArg some (hr id htab)
    have hsame : first'.lookup t.address = first.lookup t.address := by
      rw [first'.lookup_congr hp, hlook, first.lookup_congr hp]
    rw [walk_eq_ok_iff ht', hk.stageMode, hsecond]
    exact ⟨first', he', ha.congr hsame⟩

end Stream

end Iommu
