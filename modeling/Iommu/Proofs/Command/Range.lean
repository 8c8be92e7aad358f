/-
  What a range of addresses selects.

  `PageRange.selects` compares page bases.  `Meets` says what it is for, in integers, where nothing wraps
  around: the page of an address has a byte in common with the interval from `start` up to `stop`, or
  holds `start` if that interval is empty.  The two agree for all addresses, those of the last page
  included (`selects_iff_meets`).

  Two things are selected by a range: cached translations, which an invalidation takes away, and stalled
  transactions, which a resumption releases.  `Takes` says that exactly the chosen members leave a list,
  the others staying in order, and that their number is answered.  An invalidation reads the keys that it
  removes off the index of the cache, so there it takes the agreement of index and entries
  (`entries_of_removed`); a resumption goes over the table itself.  Commands over the same range
  therefore choose the same pages in both (`range_selects_pages`).
-/
import Iommu.Proofs.Controller.WellFormed
import Iommu.Proofs.Stall.Waiting
import Iommu.Proofs.Tlb.History

namespace Iommu

namespace PageRange

/-- The page of an address has a byte in the interval from `start` up to `stop`; an empty interval stands
    for the byte at `start`. -/
def Meets (r : PageRange) (a : UInt64) : Prop :=
  if r.start.toNat < r.stop.toNat then
    ∃ byte : Nat, r.start.toNat ≤ byte ∧ byte < r.stop.toNat ∧ byte / 4096 = a.toNat / 4096
  else
    r.start.toNat / 4096 = a.toNat / 4096

/-- A page has a byte in an interval that is not empty exactly if it is not before the page of the first
    byte and begins before the end. -/
theorem exists_byte_iff {start stop page : Nat} (h : start < stop) :
    (∃ byte, start ≤ byte ∧ byte < stop ∧ byte / 4096 = page) ↔
      start / 4096 ≤ page ∧ page * 4096 < stop := by
  constructor
  · rintro ⟨byte, hstart, hstop, rfl⟩
    omega
  · rintro ⟨hfirst, hlast⟩
    -- the first byte of the page, or of the interval where it begins inside the page
    exact ⟨max start (page * 4096), by omega, by omega, by omega⟩

/-- The test on pages is that on intervals of addresses, up to the last page there is. -/
theorem selects_iff_meets (r : PageRange) (a : UInt64) : r.selects a = true ↔ r.Meets a := by
  by_cases hempty : r.stop ≤ r.start
  · have hle : ¬r.start.toNat < r.stop.toNat := Nat.not_lt.2 (UInt64.le_iff_toNat_le.1 hempty)
    rw [selects, if_pos hempty, Meets, if_neg hle, beq_iff_eq, pageBase_eq_iff, eq_comm]
  · have hlt : r.start.toNat < r.stop.toNat := by
      rw [UInt64.le_iff_toNat_le] at hempty
      omega
    rw [selects, if_neg hempty, Meets, if_pos hlt, exists_byte_iff hlt, Bool.and_eq_true,
      decide_eq_true_eq, decide_eq_true_eq, UInt64.le_iff_toNat_le, UInt64.lt_iff_toNat_lt,
      pageBase_toNat, pageBase_toNat]
    omega

instance (r : PageRange) (a : UInt64) : Decidable (r.Meets a) :=
  decidable_of_iff _ (r.selects_iff_meets a)

end PageRange

/-! ## Members that leave a list -/

/-- The members of a list that satisfy `p` are taken away, the others stay in order, and `n` is the number
    of those taken. -/
structure Takes {α : Type} (p : α → Prop) [DecidablePred p] (xs rest : List α) (n : Nat) : Prop where
  rest : rest = xs.filter fun x => ¬p x
  count : n = xs.countP fun x => p x

/-- What is selected goes, the rest stays in order, and the count is exact. -/
theorem takes_of_iff {α : Type} {p : α → Prop} [DecidablePred p] {q : α → Bool}
    (h : ∀ x, q x = true ↔ p x) (xs : List α) :
    Takes p xs (xs.filter fun x => !q x) (xs.countP q) := by
  have hq : q = fun x => decide (p x) := funext fun x => by
    rw [Bool.eq_iff_iff, h, decide_eq_true_eq]
  constructor
  · simp only [hq, decide_not]
  · rw [hq]

/-- A cached translation of a stream and PASID whose page meets a range. -/
def TlbEntry.InRange (id : StreamId) (pasid : Pasid) (range : PageRange) (e : TlbEntry) : Prop :=
  e.stream = id ∧ e.pasid = pasid ∧ range.Meets e.page

/-- A stalled transaction of a stream and PASID whose page meets a range. -/
def Stall.InRange (id : StreamId) (pasid : Pasid) (range : PageRange) (s : Stall) : Prop :=
  s.transaction.stream = id ∧ s.transaction.pasid = pasid ∧ range.Meets s.transaction.address

instance (id : StreamId) (pasid : Pasid) (range : PageRange) :
    DecidablePred (TlbEntry.InRange id pasid range) :=
  fun _ => inferInstanceAs (Decidable (_ ∧ _ ∧ _))

instance (id : StreamId) (pasid : Pasid) (range : PageRange) :
    DecidablePred (Stall.InRange id pasid range) :=
  fun _ => inferInstanceAs (Decidable (_ ∧ _ ∧ _))

/-- An invalidation of a range takes away the cached translations in it, whatever their security
    state. -/
theorem Tlb.takes_invalidateRange {t : Tlb} (h : t.Indexed) (id : StreamId) (pasid : Pasid)
    (range : PageRange) : Takes (TlbEntry.InRange id pasid range) t.entries
      (t.invalidateRange id pasid range).1.entries (t.invalidateRange id pasid range).2 := by
  have hremoved : (t.step (.invalidateRange id pasid range)).2 =
      .removed (t.invalidateRange id pasid range).2 := rfl
  have hentries : (t.invalidateRange id pasid range).1.entries = t.entries.filter fun e =>
      !(Op.invalidateRange id pasid range).covers e.key := entries_of_removed h hremoved
  have hcount : (t.invalidateRange id pasid range).2 = t.entries.countP fun e =>
      (Op.invalidateRange id pasid range).covers e.key := by
    have hsize : (t.invalidateRange id pasid range).1.entries.length +
        (t.invalidateRange id pasid range).2 = t.entries.length := size_add_removed h hremoved
    have hsplit := List.length_eq_length_filter_add (l := t.entries) fun e =>
      (Op.invalidateRange id pasid range).covers e.key
    rw [← hentries, ← List.countP_eq_length_filter] at hsplit
    omega
  rw [hentries, hcount]
  refine takes_of_iff (p := TlbEntry.InRange id pasid range) (fun e => ?_) t.entries
  rw [covers_invalidateRange, range.selects_iff_meets]
  rfl

/-- A resumption of a range releases the stalled transactions in it. -/
theorem StallTable.takes_resume (t : StallTable) (id : StreamId) (pasid : Pasid) (range : PageRange) :
    Takes (Stall.InRange id pasid range) t.stalls (t.resume id pasid range).1.stalls
      (t.resume id pasid range).2 := by
  refine takes_of_iff (p := Stall.InRange id pasid range)
    (q := fun s => inRange id pasid range s.transaction) (fun s => ?_) t.stalls
  rw [inRange, Bool.and_eq_true, Bool.and_eq_true, decide_eq_true_eq, decide_eq_true_eq, and_assoc,
    range.selects_iff_meets]
  rfl

/-! ## Commands over a range -/

namespace Controller

/-- A command that names a configured stream is carried out. -/
theorem execute_of_configured {c : Controller} {s : Stream} {cmd : Command}
    (ht : cmd.kind.targetsStream = true) (hs : c.streams[cmd.stream]? = some s) :
    c.execute cmd = .ok (c.executeOn s cmd) := by
  rw [execute, if_pos ht, stream_eq_ok_iff.2 hs]

/-- The two invalidations of a range do the same to the cache, and leave the stalled transactions. -/
theorem executeOn_invalidation (c : Controller) (s : Stream) (cmd : Command)
    (hk : cmd.kind = .tlbiNhVa ∨ cmd.kind = .atcInv) :
    (c.executeOn s cmd).tlb = (c.tlb.invalidateRange cmd.stream cmd.pasid cmd.range).1 ∧
      (c.executeOn s cmd).waiting = c.waiting := by
  rcases hk with hk | hk
  · rw [executeOn, hk]
    exact ⟨rfl, rfl⟩
  · rw [executeOn, hk]
    exact ⟨congrArg Core.tlb (core_emit _ _), waiting_emit _ _⟩

/-- A range selects the pages that it meets, in the cache and in the table of stalled transactions.  What
    an invalidation removes and what a resumption releases are exactly the entries and the transactions
    of the stream and PASID in those pages; both answer how many, and what is left stays in order.  So
    the commands that invalidate a range and the one that resumes it are about the same pages. -/
theorem range_selects_pages (id : StreamId) (pasid : Pasid) (range : PageRange) :
    (∀ (capacity : Nat) (ops : List Tlb.Op),
      let t := ((Tlb.ofCapacity capacity).run ops).1
      Takes (TlbEntry.InRange id pasid range) t.entries (t.invalidateRange id pasid range).1.entries
        (t.invalidateRange id pasid range).2) ∧
    (∀ t : StallTable, Takes (Stall.InRange id pasid range) t.stalls
      (t.resume id pasid range).1.stalls (t.resume id pasid range).2) ∧
    ∀ (config : Configuration) (c₀ : Controller), create config = .ok c₀ → ∀ ops : List Op,
      let c := (c₀.run ops).1
      c.isConfigured id = true → ∀ timestamp : UInt64,
        (∀ kind, kind = .tlbiNhVa ∨ kind = .atcInv → ∃ c',
          c.execute ⟨kind, id, pasid, range.start, range.stop, timestamp⟩ = .ok c' ∧
          c'.tlb.entries = c.tlb.entries.filter (fun e => ¬e.InRange id pasid range) ∧
          c'.stalls = c.stalls) ∧
        ∃ c' n, c.execute ⟨.resume, id, pasid, range.start, range.stop, timestamp⟩ = .ok c' ∧
          Takes (Stall.InRange id pasid range) c.stalls.stalls c'.stalls.stalls n ∧
          c'.counters.stallsResumed = c.counters.stallsResumed + n ∧ c'.tlb = c.tlb := by
  refine ⟨fun capacity ops => ?_, fun t => t.takes_resume id pasid range, ?_⟩
  · exact Tlb.takes_invalidateRange ((Tlb.sound_ofCapacity capacity).run ops).indexed id pasid range
  · intro config c₀ hcreate ops c hid timestamp
    have hindexed : c.tlb.Indexed := ((wellFormed_of_create hcreate).run ops).indexed
    obtain ⟨s, hs⟩ : ∃ s, c.streams[id]? = some s := by
      rwa [isConfigured, Std.ExtTreeMap.contains_eq_isSome_getElem?, Option.isSome_iff_exists] at hid
    refine ⟨fun kind hk => ?_, ?_⟩
    · have ht : kind.targetsStream = true := by rcases hk with rfl | rfl <;> rfl
      obtain ⟨htlb, hwaiting⟩ :=
        executeOn_invalidation c s ⟨kind, id, pasid, range.start, range.stop, timestamp⟩ hk
      refine ⟨_, execute_of_configured ht hs, ?_, ?_⟩
      · rw [htlb]
        exact (Tlb.takes_invalidateRange hindexed id pasid range).rest
      · exact congrArg (fun w : Waiting => StallTable.mk w.stalls) hwaiting
    · exact ⟨_, _, execute_of_configured rfl hs, c.stalls.takes_resume id pasid range, rfl, rfl⟩

/-- The three highest pages are cached, and writes to the lowest and the highest of them wait.  A range from
    the last byte of the middle page to the second byte of the highest is about those two pages, though
    it names three bytes of them. -/
theorem range_selects_pages_top :
    let config : Configuration := { widths := { inputBits := 64 } }
    let c₀ := start config [] [] .empty 0
    let map (a : UInt64) : Op := .map 1 0 ⟨a, 0x8000, ⟨true, false, false⟩, .nonSecure⟩
    let ask (a : UInt64) (access : Access) : Op := .translate ⟨1, 0, a, access, .nonSecure⟩
    let ops : List Op := [.configure 1 { faultMode := .stall }, .createPasid 1 0,
      map 0xFFFFFFFFFFFFD000, map 0xFFFFFFFFFFFFE000, map 0xFFFFFFFFFFFFF000,
      ask 0xFFFFFFFFFFFFD000 .read, ask 0xFFFFFFFFFFFFE000 .read, ask 0xFFFFFFFFFFFFF000 .read,
      ask 0xFFFFFFFFFFFFD123 .write, ask 0xFFFFFFFFFFFFFABC .write]
    let c := (c₀.run ops).1
    let range : PageRange := ⟨0xFFFFFFFFFFFFEFFF, 0xFFFFFFFFFFFFF002⟩
    create config = .ok c₀ ∧ c.isConfigured 1 = true ∧
      c.tlb.entries.length = 3 ∧ c.stalls.size = 2 ∧
      (∃ c', c.execute (.tlbiNhVa 1 0 range.start range.stop) = .ok c' ∧
        c'.tlb.entries.map TlbEntry.page = [0xFFFFFFFFFFFFD000] ∧ c'.stalls = c.stalls) ∧
      ∃ c', c.execute (.resume 1 0 range.start range.stop) = .ok c' ∧
        c'.stalls.stalls.map (fun s => s.transaction.address) = [0xFFFFFFFFFFFFD123] ∧
        c'.counters.stallsResumed = 1 ∧ c'.tlb = c.tlb := by
  intro config c₀ map ask ops c range
  have hcreate : create config = .ok c₀ := rfl
  have hconfigured : c.isConfigured 1 = true := by decide +kernel
  obtain ⟨-, -, hcommands⟩ := range_selects_pages 1 0 range
  obtain ⟨hdrop, c₂, n, hresume, htakes, hcount, htlb⟩ :=
    hcommands config c₀ hcreate ops hconfigured 0
  obtain ⟨c₁, hinvalidate, hentries, hstalls⟩ := hdrop .tlbiNhVa (Or.inl rfl)
  refine ⟨hcreate, hconfigured, by decide +kernel, by decide +kernel,
    ⟨c₁, hinvalidate, ?_, hstalls⟩, ⟨c₂, hresume, ?_, ?_, htlb⟩⟩
  · rw [hentries]
    decide +kernel
  · rw [htakes.rest]
    decide +kernel
  · rw [hcount, htakes.count]
    decide +kernel

end Controller

end Iommu
