/-
  The bulk changes of a page table: all or nothing, in any order.

  `MapsAll` and `UnmapsAll` say what the two bulk changes do for every list.  Accepted, they are the
  changes of one page made one by one, and the order of these does not matter: mappings of different
  pages commute (`map_comm`), and unmapping takes away a set of keys (`pages_foldl_unmap`).  Refused,
  they name the first entry that is wrong and leave the table as it was; for mappings that entry is found
  by `firstRepeat`, and `firstRepeat_eq_some` says that nothing before it is repeated.
-/
import Mathlib.Data.List.Perm.Basic
import Iommu.Proofs.PageTable.Bulk

namespace Iommu.PageTable

/-! ## What is claimed -/

/-- Mapping a list at once: if no page is named twice it maps the entries one by one, in any order, and
    otherwise the first entry that names a page again is the error. -/
structure MapsAll (t : PageTable) (ms : List Mapping) : Prop where
  accepted : (ms.map Mapping.page).Nodup →
    ∀ ms' : List Mapping, ms'.Perm ms → t.mapPages ms = .ok (ms'.foldl map t)
  refused : ¬(ms.map Mapping.page).Nodup → ∃ before m after, ms = before ++ m :: after ∧
    (before.map Mapping.page).Nodup ∧ m.page ∈ before.map Mapping.page ∧
    t.step (.mapPages ms) = .error (.pageAlreadyMapped m.page) ∧ t.edit (.mapPages ms) = t

/-- Unmapping a list at once: if every page is mapped it takes the pages of the list out and nothing
    else, as any list that names the same pages does one by one, and otherwise the first address whose
    page is missing is the error. -/
structure UnmapsAll (t : PageTable) (as : List UInt64) : Prop where
  accepted : (∀ a ∈ as, t.isMapped a = true) → ∃ t', t.unmapPages as = .ok t' ∧
    (∀ page, t'.pages[page]? = if page ∈ as.map pageBase then none else t.pages[page]?) ∧
    ∀ as' : List UInt64, (∀ page, page ∈ as'.map pageBase ↔ page ∈ as.map pageBase) →
      t' = as'.foldl unmap t
  refused : (¬∀ a ∈ as, t.isMapped a = true) → ∃ before a after, as = before ++ a :: after ∧
    (∀ b ∈ before, t.isMapped b = true) ∧ t.isMapped a = false ∧
    t.step (.unmapPages as) = .error (.pageNotMapped a) ∧ t.edit (.unmapPages as) = t

/-! ## Order -/

/-- Tables that hold the same pages are the same. -/
theorem eq_of_pages {t t' : PageTable} (h : ∀ page : UInt64, t.pages[page]? = t'.pages[page]?) :
    t = t' :=
  congrArg PageTable.mk (Std.ExtTreeMap.ext_getElem? fun page => h page)

/-- A mapping enters its page, over whatever there was. -/
theorem pages_map (t : PageTable) (m : Mapping) (page : UInt64) :
    (t.map m).pages[page]? = if m.page = page then some m.entry else t.pages[page]? := by
  simp [map, Std.ExtTreeMap.getElem?_insert]

/-- Unmapping takes out one page. -/
theorem pages_unmap (t : PageTable) (a page : UInt64) :
    (t.unmap a).pages[page]? = if pageBase a = page then none else t.pages[page]? := by
  simp [unmap, Std.ExtTreeMap.getElem?_erase]

/-- Mappings of different pages commute. -/
theorem map_comm (t : PageTable) {m m' : Mapping} (h : m.page ≠ m'.page) :
    (t.map m).map m' = (t.map m').map m := by
  refine eq_of_pages fun page => ?_
  rw [pages_map, pages_map, pages_map, pages_map]
  by_cases hm : m.page = page
  · rw [if_pos hm, if_pos hm, if_neg fun hm' => h (hm.trans hm'.symm)]
  · rw [if_neg hm, if_neg hm]

/-- Mappings of different pages may be made in any order. -/
theorem foldl_map_perm {ms ms' : List Mapping} (hperm : ms'.Perm ms)
    (hnodup : (ms.map Mapping.page).Nodup) (t : PageTable) : ms'.foldl map t = ms.foldl map t := by
  refine hperm.foldl_eq' (fun m hm m' hm' t => ?_) t
  by_cases hsame : m = m'
  · rw [hsame]
  · refine map_comm t fun hpage => hsame ?_
    exact List.inj_on_of_nodup_map hnodup (hperm.subset hm) (hperm.subset hm') hpage

/-- Unmapping takes the keys of the list away. -/
theorem pages_foldl_unmap (as : List UInt64) (t : PageTable) (page : UInt64) :
    (as.foldl unmap t).pages[page]? =
      if page ∈ as.map pageBase then none else t.pages[page]? := by
  induction as generalizing t with
  | nil => rfl
  | cons a as ih =>
    rw [List.foldl_cons, ih, List.map_cons, pages_unmap]
    by_cases ha : pageBase a = page
    · simp [ha]
    · simp [ha, Ne.symm ha]

/-- Which pages are unmapped matters, and neither their order nor how often each is named. -/
theorem foldl_unmap_congr {as as' : List UInt64}
    (h : ∀ page, page ∈ as'.map pageBase ↔ page ∈ as.map pageBase) (t : PageTable) :
    as'.foldl unmap t = as.foldl unmap t := by
  refine eq_of_pages fun page => ?_
  rw [pages_foldl_unmap, pages_foldl_unmap]
  exact if_congr (h page) rfl rfl

/-! ## The first wrong entry -/

/-- The page found is the first that is repeated, or that was seen before the list. -/
theorem firstRepeat_eq_some {seen ps : List UInt64} {q : UInt64} (h : firstRepeat seen ps = some q) :
    ∃ before after, ps = before ++ q :: after ∧ before.Nodup ∧ (∀ p ∈ before, p ∉ seen) ∧
      (q ∈ seen ∨ q ∈ before) := by
  induction ps generalizing seen with
  | nil => cases h
  | cons p ps ih =>
    rw [firstRepeat] at h
    split at h
    · rename_i hp
      obtain rfl := Option.some.inj h
      exact ⟨[], ps, rfl, List.nodup_nil, fun _ hx => absurd hx List.not_mem_nil, Or.inl hp⟩
    · rename_i hp
      obtain ⟨before, after, rfl, hnodup, hnew, hq⟩ := ih h
      have hfresh : p ∉ before := fun hmem => hnew p hmem List.mem_cons_self
      refine ⟨p :: before, after, rfl, List.nodup_cons.2 ⟨hfresh, hnodup⟩, ?_, ?_⟩
      · rintro x hx hseen
        rcases List.mem_cons.1 hx with rfl | hx
        · exact hp hseen
        · exact hnew x hx (List.mem_cons_of_mem p hseen)
      · rcases hq with hq | hq
        · rcases List.mem_cons.1 hq with rfl | hq
          · exact Or.inr List.mem_cons_self
          · exact Or.inl hq
        · exact Or.inr (List.mem_cons_of_mem p hq)

/-- A list is mapped if no page is named twice. -/
theorem mapPages_of_nodup {t : PageTable} {ms : List Mapping} (h : (ms.map Mapping.page).Nodup) :
    t.mapPages ms = .ok (ms.foldl map t) := by
  rw [mapPages, firstRepeat_eq_none.2 ⟨h, fun _ _ => List.not_mem_nil⟩]

/-- A list that names a page twice is refused for the first entry that does. -/
theorem mapPages_of_repeat {t : PageTable} {ms : List Mapping} (h : ¬(ms.map Mapping.page).Nodup) :
    ∃ before m after, ms = before ++ m :: after ∧ (before.map Mapping.page).Nodup ∧
      m.page ∈ before.map Mapping.page ∧ t.mapPages ms = .error (.pageAlreadyMapped m.page) := by
  cases hr : firstRepeat [] (ms.map Mapping.page) with
  | none => exact absurd (firstRepeat_eq_none.1 hr).1 h
  | some q =>
    obtain ⟨before, after, hsplit, hnodup, -, hq⟩ := firstRepeat_eq_some hr
    -- the pages are those of the entries, so the list of entries splits at the same place
    obtain ⟨xs, ys, rfl, rfl, hys⟩ := List.map_eq_append_iff.1 hsplit
    obtain ⟨m, zs, rfl, rfl, -⟩ := List.map_eq_cons_iff.1 hys
    refine ⟨xs, m, zs, rfl, hnodup, hq.resolve_left List.not_mem_nil, ?_⟩
    rw [mapPages, hr]

/-- A list is unmapped if every page is there. -/
theorem unmapPages_of_mapped {t : PageTable} {as : List UInt64} (h : ∀ a ∈ as, t.isMapped a = true) :
    t.unmapPages as = .ok (as.foldl unmap t) := by
  have hnone : (as.find? fun a => !t.isMapped a) = none := by
    rw [List.find?_eq_none]
    intro a ha
    simp [h a ha]
  rw [unmapPages, hnone]

/-- A list with a page that is not there is refused for the first such address. -/
theorem unmapPages_of_missing {t : PageTable} {as : List UInt64}
    (h : ¬∀ a ∈ as, t.isMapped a = true) : ∃ before a after, as = before ++ a :: after ∧
      (∀ b ∈ before, t.isMapped b = true) ∧ t.isMapped a = false ∧
      t.unmapPages as = .error (.pageNotMapped a) := by
  cases hf : as.find? fun a => !t.isMapped a with
  | none =>
    rw [List.find?_eq_none] at hf
    exact absurd (fun a ha => by simpa using hf a ha) h
  | some a =>
    obtain ⟨hmissing, before, after, hsplit, hbefore⟩ := List.find?_eq_some_iff_append.1 hf
    refine ⟨before, a, after, hsplit, fun b hb => by simpa using hbefore b hb,
      by simpa using hmissing, ?_⟩
    rw [unmapPages, hf]

/-! ## All or nothing -/

/-- A list of mappings is refused for a page that it names twice, and otherwise entered as a
    whole. -/
theorem mapsAll (t : PageTable) (ms : List Mapping) : t.MapsAll ms where
  accepted hnodup ms' hperm := by
    rw [mapPages_of_nodup hnodup, foldl_map_perm hperm hnodup]
  refused hrepeat := by
    obtain ⟨before, m, after, hsplit, hnodup, hm, herror⟩ := mapPages_of_repeat (t := t) hrepeat
    have hstep : t.step (.mapPages ms) = .error (.pageAlreadyMapped m.page) := by
      rw [step, herror]
      rfl
    exact ⟨before, m, after, hsplit, hnodup, hm, hstep, by rw [edit, hstep]⟩

/-- A list of addresses is refused for a page that is not mapped, and otherwise taken out as a
    whole. -/
theorem unmapsAll (t : PageTable) (as : List UInt64) : t.UnmapsAll as where
  accepted hmapped := ⟨as.foldl unmap t, unmapPages_of_mapped hmapped, pages_foldl_unmap as t,
    fun _ hsame => (foldl_unmap_congr hsame t).symm⟩
  refused hmissing := by
    obtain ⟨before, a, after, hsplit, hbefore, ha, herror⟩ := unmapPages_of_missing hmissing
    have hstep : t.step (.unmapPages as) = .error (.pageNotMapped a) := by
      rw [step, herror]
      rfl
    exact ⟨before, a, after, hsplit, hbefore, ha, hstep, by rw [edit, hstep]⟩

end Iommu.PageTable
