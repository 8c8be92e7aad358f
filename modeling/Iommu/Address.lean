/-
  Addresses, pages and identifiers.

  An address is a 64-bit word.  It lies in exactly one 4096-byte page: `pageBase a` is the first
  address of that page and `pageOffset a` the distance from it, so `pageBase a + pageOffset a = a`
  (`pageBase_add_pageOffset`).  `inPage frame a` is the address at the same offset in another page;
  it is how a page mapping moves an address.

  `PageRange` names a set of pages by two addresses.  The translation cache and the table of stalled
  transactions both select by it, so they agree on what a range covers.
-/

namespace Iommu

/-- Identifies the device that issues a transaction. -/
abbrev StreamId := UInt32

/-- Identifies one address space of a stream. -/
abbrev Pasid := UInt32

/-- The largest PASID: identifiers have 20 bits. -/
def maxPasid : Pasid := 0xFFFFF

/-! ## Pages -/

/-- Bytes in a page. -/
def pageSize : UInt64 := 4096

/-- Distance of an address from the start of its page. -/
def pageOffset (a : UInt64) : UInt64 := a % pageSize

/-- First address of the page that holds `a`. -/
def pageBase (a : UInt64) : UInt64 := a - a % pageSize

/-- The address in the page of `frame` at the offset that `a` has in its own page: the low bits of
    a page base are zero, and the offset is put there. -/
def inPage (frame a : UInt64) : UInt64 := pageBase frame ||| pageOffset a

theorem pageOffset_toNat (a : UInt64) : (pageOffset a).toNat = a.toNat % 4096 := by
  simp [pageOffset, pageSize]

theorem pageBase_toNat (a : UInt64) : (pageBase a).toNat = a.toNat / 4096 * 4096 := by
  have h : a % pageSize ≤ a := by
    rw [UInt64.le_iff_toNat_le]
    simpa [pageSize] using Nat.mod_le a.toNat 4096
  rw [pageBase, UInt64.toNat_sub_of_le _ _ h]
  simp only [pageSize, UInt64.toNat_mod, UInt64.reduceToNat]
  omega

theorem inPage_toNat (frame a : UInt64) :
    (inPage frame a).toNat = frame.toNat / 4096 * 4096 + a.toNat % 4096 := by
  have hoffset : a.toNat % 4096 < 2 ^ 12 := Nat.mod_lt _ (by decide)
  rw [inPage, UInt64.toNat_or, pageBase_toNat, pageOffset_toNat, Nat.mul_comm]
  exact (Nat.two_pow_add_eq_or_of_lt hoffset (frame.toNat / 4096)).symm

/-- A page base is aligned, so putting an offset into its low bits is adding it. -/
theorem inPage_eq_add (frame a : UInt64) : inPage frame a = pageBase frame + pageOffset a := by
  apply UInt64.toNat_inj.1
  have hf := frame.toNat_lt
  rw [inPage_toNat, UInt64.toNat_add, pageBase_toNat, pageOffset_toNat]
  omega

/-- An address is its page base moved by its offset. -/
theorem pageBase_add_pageOffset (a : UInt64) : pageBase a + pageOffset a = a := by
  apply UInt64.toNat_inj.1
  have ha := a.toNat_lt
  rw [UInt64.toNat_add, pageBase_toNat, pageOffset_toNat]
  omega

/-- A moved address lies in the page it was moved to. -/
theorem pageBase_inPage (frame a : UInt64) : pageBase (inPage frame a) = pageBase frame := by
  apply UInt64.toNat_inj.1
  rw [pageBase_toNat, inPage_toNat, pageBase_toNat]
  omega

/-- The base of a page is the base of its own page. -/
theorem pageBase_pageBase (a : UInt64) : pageBase (pageBase a) = pageBase a := by
  apply UInt64.toNat_inj.1
  rw [pageBase_toNat, pageBase_toNat]
  omega

/-! ## Bus width -/

/-- Whether `a` can be carried by an address bus of `bits` wires. -/
def fitsIn (a : UInt64) (bits : UInt32) : Bool :=
  64 ≤ bits || a.toNat >>> bits.toNat == 0

/-! ## Ranges of pages -/

/-- The pages from the one that holds `start` to the last one that begins before `stop`.  When
    `stop` is not above `start` the range is the single page that holds `start`. -/
structure PageRange where
  start : UInt64
  stop : UInt64
deriving DecidableEq

namespace PageRange

/-- The single page that holds `a`. -/
def single (a : UInt64) : PageRange := ⟨a, a⟩

/-- The range from the start of the page that holds `a` to the start of the next.  The sum is one of
    64-bit words, so the last page of the address space has `stop` zero, which is the range of a single
    page as well (`ofPage_selects`).  Arithmetic that refuses to wrap would stop at that page. -/
def ofPage (a : UInt64) : PageRange := ⟨pageBase a, pageBase a + pageSize⟩

/-- Whether the page that holds `a` belongs to the range. -/
def selects (r : PageRange) (a : UInt64) : Bool :=
  if r.stop ≤ r.start then
    pageBase a == pageBase r.start
  else
    pageBase r.start ≤ pageBase a && pageBase a < r.stop

theorem single_selects (a b : UInt64) :
    (single a).selects b = (pageBase b == pageBase a) := by
  simp [single, selects]

/-- From a page to the next there is that page alone, at the top of the address space too. -/
theorem ofPage_selects (a b : UInt64) :
    (ofPage a).selects b = (pageBase b == pageBase a) := by
  have ha := pageBase_toNat a
  have hb := pageBase_toNat b
  have hlt := a.toNat_lt
  have hstop : (pageBase a + pageSize).toNat = ((pageBase a).toNat + 4096) % 2 ^ 64 :=
    UInt64.toNat_add ..
  unfold selects ofPage
  dsimp only
  split
  · rw [pageBase_pageBase]
  · rename_i hle
    -- the next page starts after this one, so the sum did not wrap
    rw [UInt64.le_iff_toNat_le, hstop] at hle
    rw [pageBase_pageBase, Bool.eq_iff_iff, beq_iff_eq, Bool.and_eq_true, decide_eq_true_eq,
      decide_eq_true_eq, UInt64.le_iff_toNat_le, UInt64.lt_iff_toNat_lt, hstop, ← UInt64.toNat_inj]
    omega

end PageRange

end Iommu
