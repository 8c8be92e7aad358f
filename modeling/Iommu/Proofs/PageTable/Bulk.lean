/-
  What a change to a page table leaves in it.

  Mapping a list one by one leaves, for each page, the last mapping of it (`lookup_foldl_map`).  The bulk
  form is accepted exactly when no page is named twice (`firstRepeat_eq_none`), so then the last mapping
  of a page is the only one, and an accepted change leaves every mapping it names in the table
  (`lookup_edit`).

  `Op.writes` tells a change page by page: a page that is written holds what was written, and the others
  what they held before (`lookup_step`).
-/
import Mathlib.Data.List.Nodup
import Iommu.PageTable

namespace Iommu.PageTable

/-- The mappings that a change writes if it is accepted. -/
def Op.mappings : Op → List Mapping
  | .map m => [m]
  | .mapPages ms => ms
  | _ => []

/-- Mapping one by one: the last mapping of a page is the one found. -/
theorem lookup_foldl_map (ms : List Mapping) (t : PageTable) (a : UInt64) :
    (ms.foldl map t).lookup a =
      ((ms.reverse.find? fun m => m.page = pageBase a).map Mapping.entry).or (t.lookup a) := by
  induction ms generalizing t with
  | nil => rfl
  | cons m ms ih =>
    rw [List.foldl_cons, ih, lookup_map, List.reverse_cons, List.find?_append]
    -- a later mapping of the page hides the one made first
    cases hlater : ms.reverse.find? fun x => x.page = pageBase a with
    | some x => rfl
    | none =>
      by_cases hm : m.page = pageBase a
      · simp [hm]
      · simp [hm]

/-- Nothing is repeated exactly when all are different, and none was seen before. -/
theorem firstRepeat_eq_none {seen ps : List UInt64} :
    firstRepeat seen ps = none ↔ ps.Nodup ∧ ∀ q ∈ ps, q ∉ seen := by
  induction ps generalizing seen with
  | nil => simp [firstRepeat]
  | cons q ps ih =>
    rw [firstRepeat, List.nodup_cons]
    split
    · rename_i hq
      constructor
      · exact nofun
      · rintro ⟨-, hnew⟩
        exact absurd hq (hnew q List.mem_cons_self)
    · rename_i hq
      rw [ih]
      constructor
      · -- `q` is among the pages seen when the rest is tested
        rintro ⟨hnodup, hnew⟩
        have hhead : q ∉ ps := fun hmem => hnew q hmem List.mem_cons_self
        refine ⟨⟨hhead, hnodup⟩, fun x hx => ?_⟩
        rcases List.mem_cons.1 hx with rfl | hx
        · exact hq
        · exact fun hseen => hnew x hx (List.mem_cons_of_mem q hseen)
      · rintro ⟨⟨hhead, hnodup⟩, hnew⟩
        refine ⟨hnodup, fun x hx hseen => ?_⟩
        rcases List.mem_cons.1 hseen with rfl | hseen
        · exact hhead hx
        · exact hnew x (List.mem_cons_of_mem q hx) hseen

/-- Where no page is named twice, every mapping of the list is found. -/
theorem lookup_foldl_map_of_mem {ms : List Mapping} (hnodup : (ms.map Mapping.page).Nodup)
    {m : Mapping} (hm : m ∈ ms) (t : PageTable) :
    (ms.foldl map t).lookup m.input = some m.entry := by
  rw [lookup_foldl_map]
  cases hlast : ms.reverse.find? fun x => x.page = pageBase m.input with
  | none =>
    have hne := List.find?_eq_none.1 hlast m (List.mem_reverse.2 hm)
    exact absurd (decide_eq_true (p := m.page = pageBase m.input) rfl) hne
  | some x =>
    have hmem : x ∈ ms := List.mem_reverse.1 (List.mem_of_find?_eq_some hlast)
    have hpage : x.page = pageBase m.input := by simpa using List.find?_some hlast
    obtain rfl : x = m := List.inj_on_of_nodup_map hnodup hmem hm hpage
    rfl

/-- An accepted change leaves every mapping it names in the table. -/
theorem lookup_edit {t : PageTable} {op : Op} (hok : (t.step op).isOk = true) {m : Mapping}
    (hm : m ∈ op.mappings) : (t.edit op).lookup m.input = some m.entry := by
  cases op with
  | map x =>
    obtain rfl := List.mem_singleton.1 hm
    have hpage : m.page = pageBase m.input := rfl
    show (t.map m).lookup m.input = some m.entry
    rw [lookup_map, if_pos hpage]
  | mapPages ms =>
    rw [edit]
    rw [step, mapPages] at hok ⊢
    cases hr : firstRepeat [] (ms.map Mapping.page) with
    | some q =>
      rw [hr] at hok
      cases hok
    | none => exact lookup_foldl_map_of_mem (firstRepeat_eq_none.1 hr).1 hm t
  | unmap a => cases hm
  | unmapPages as => cases hm
  | clear => cases hm

/-! ## Page by page -/

/-- What an accepted change writes to a page: a mapping, or none when it unmaps the page. -/
def Op.writes (page : UInt64) : Op → Option (Option Mapping)
  | .map m => if m.page = page then some (some m) else none
  | .unmap a => if pageBase a = page then some none else none
  | .mapPages ms => (ms.reverse.find? fun m => m.page = page).map some
  | .unmapPages as => if page ∈ as.map pageBase then some none else none
  | .clear => some none

/-- Whether a table that holds these pages accepts a change. -/
def Op.Admissible (held : UInt64 → Prop) : Op → Prop
  | .mapPages ms => (ms.map Mapping.page).Nodup
  | .unmapPages as => ∀ a ∈ as, held (pageBase a)
  | _ => True

/-- What is unmapped is gone, and the rest stays. -/
theorem lookup_foldl_unmap (as : List UInt64) (t : PageTable) (a : UInt64) :
    (as.foldl unmap t).lookup a = if pageBase a ∈ as.map pageBase then none else t.lookup a := by
  induction as generalizing t with
  | nil => simp
  | cons b as ih =>
    rw [List.foldl_cons, ih, lookup_unmap, List.map_cons]
    by_cases hb : pageBase b = pageBase a
    · simp [hb]
    · simp [hb, Ne.symm hb]

/-- A page holds what an accepted change wrote to it, or what it held before. -/
theorem lookup_step {t t' : PageTable} {op : Op} {b : Bool} (h : t.step op = .ok (t', b))
    (a : UInt64) : t'.lookup a =
      ((op.writes (pageBase a)).map (Option.map Mapping.entry)).getD (t.lookup a) := by
  cases op with
  | map m =>
    cases h
    rw [lookup_map, Op.writes]
    split <;> rfl
  | unmap b =>
    cases h
    rw [lookup_unmap, Op.writes]
    split <;> rfl
  | mapPages ms =>
    rw [step, mapPages] at h
    split at h
    · cases h
    · cases h
      rw [lookup_foldl_map, Op.writes]
      cases ms.reverse.find? fun m => m.page = pageBase a <;> rfl
  | unmapPages as =>
    rw [step, unmapPages] at h
    split at h
    · cases h
    · cases h
      rw [lookup_foldl_unmap, Op.writes]
      split <;> rfl
  | clear =>
    cases h
    exact lookup_empty a

/-- A change is accepted by what is mapped, and not by how. -/
theorem step_isOk_iff {t : PageTable} {op : Op} {held : UInt64 → Prop}
    (hheld : ∀ a, held (pageBase a) ↔ t.isMapped a = true) :
    (t.step op).isOk = true ↔ op.Admissible held := by
  cases op with
  | mapPages ms =>
    have hnone : firstRepeat [] (ms.map Mapping.page) = none ↔ (ms.map Mapping.page).Nodup :=
      firstRepeat_eq_none.trans (and_iff_left fun _ _ => List.not_mem_nil)
    rw [step, mapPages, Op.Admissible, ← hnone]
    split <;> simp_all [Except.isOk, Except.toBool, Except.map]
  | unmapPages as =>
    have hnone : (as.find? fun a => !t.isMapped a) = none ↔ ∀ a ∈ as, held (pageBase a) := by
      rw [List.find?_eq_none]
      simp only [hheld, Bool.not_eq_true', Bool.not_eq_false]
    rw [step, unmapPages, Op.Admissible, ← hnone]
    split <;> simp_all [Except.isOk, Except.toBool, Except.map]
  | _ => exact iff_of_true rfl trivial

end Iommu.PageTable
