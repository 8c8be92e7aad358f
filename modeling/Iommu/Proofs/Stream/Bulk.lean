/-
  Mapping a list of pages in a PASID of a stream.

  The stream looks at the addresses before the PASID, and at both before the pages.  So the first mapping
  that does not fit the buses is the error, if there is one; then a PASID that is missing; then a page
  named twice, which is the table's own refusal (`PageTable.MapsAll`).  `Session.MapsAll` is this order,
  with the session left as it was by each error.
-/
import Iommu.Proofs.PageTable.AllOrNothing
import Iommu.Proofs.Stream.Reference

namespace Iommu.Stream

/-- The addresses of a mapping fit the buses of the stream. -/
def InRange (s : Stream) (m : Mapping) : Prop :=
  Carries s.limits.inputBits m.input ∧ Carries s.limits.outputBits m.physical

/-- The error of a mapping that does not fit: its input address, if that is wrong, and else the other. -/
def misfit (s : Stream) (m : Mapping) : Error :=
  if Carries s.limits.inputBits m.input then .invalidAddress m.physical s.limits.outputBits
  else .invalidAddress m.input s.limits.inputBits

/-- Mapping a list in a PASID: the first address that does not fit, the missing PASID and the first page
    named again are refused in this order, each without a trace, and what is left is mapped one by one,
    in any order. -/
structure Session.MapsAll (x : Session) (pasid : Pasid) (ms : List Mapping) : Prop where
  misfit : (¬∀ m ∈ ms, x.stream.InRange m) → ∃ before m after, ms = before ++ m :: after ∧
    (∀ b ∈ before, x.stream.InRange b) ∧ ¬x.stream.InRange m ∧
    x.step (.mapPages pasid ms) = (x, .error (x.stream.misfit m))
  absent : (∀ m ∈ ms, x.stream.InRange m) → x.stream.pasids[pasid]? = none →
    x.step (.mapPages pasid ms) = (x, .error (.pasidNotFound x.stream.id pasid))
  repeated : (∀ m ∈ ms, x.stream.InRange m) → x.stream.hasPasid pasid = true →
    ¬(ms.map Mapping.page).Nodup → ∃ before m after, ms = before ++ m :: after ∧
      (before.map Mapping.page).Nodup ∧ m.page ∈ before.map Mapping.page ∧
      x.step (.mapPages pasid ms) = (x, .error (.pageAlreadyMapped m.page))
  accepted : (∀ m ∈ ms, x.stream.InRange m) → ∀ t : PageTable, x.stream.pasids[pasid]? = some t →
    (ms.map Mapping.page).Nodup → ∀ ms' : List Mapping, ms'.Perm ms →
      x.step (.mapPages pasid ms) =
        ({ x with stream := x.stream.setPasidTable pasid (ms'.foldl PageTable.map t) }, .ok .done)

/-! ## Widths -/

/-- The width check passes exactly for a mapping in range. -/
theorem checkWidths_eq_ok_iff_inRange {s : Stream} {m : Mapping} :
    s.checkWidths m = .ok () ↔ s.InRange m := by
  rw [checkWidths_eq_ok_iff, fitsIn_iff_carries, fitsIn_iff_carries, InRange]

/-- A mapping out of range fails the check with the error that names its misfit. -/
theorem checkWidths_of_misfit {s : Stream} {m : Mapping} (h : ¬s.InRange m) :
    s.checkWidths m = .error (s.misfit m) := by
  rw [checkWidths, misfit]
  by_cases hinput : Carries s.limits.inputBits m.input
  · have hphysical : ¬Carries s.limits.outputBits m.physical := fun h' => h ⟨hinput, h'⟩
    rw [if_pos hinput, fitsIn_iff_carries.2 hinput,
      Bool.eq_false_iff.2 (mt fitsIn_iff_carries.1 hphysical)]
    rfl
  · rw [if_neg hinput, Bool.eq_false_iff.2 (mt fitsIn_iff_carries.1 hinput)]
    rfl

/-- Mappings all in range pass the check of the whole list. -/
theorem checkAllWidths_of_inRange {s : Stream} {ms : List Mapping} (h : ∀ m ∈ ms, s.InRange m) :
    s.checkAllWidths ms = .ok () :=
  checkAllWidths_eq_ok_iff.2 fun m hm => checkWidths_eq_ok_iff_inRange.2 (h m hm)

/-- The first mapping that does not fit is the error. -/
theorem checkAllWidths_of_misfit {s : Stream} {ms : List Mapping} (h : ¬∀ m ∈ ms, s.InRange m) :
    ∃ before m after, ms = before ++ m :: after ∧ (∀ b ∈ before, s.InRange b) ∧ ¬s.InRange m ∧
      s.checkAllWidths ms = .error (s.misfit m) := by
  induction ms with
  | nil => exact absurd (fun m hm => absurd hm List.not_mem_nil) h
  | cons m ms ih =>
    by_cases hm : s.InRange m
    · have hrest : ¬∀ x ∈ ms, s.InRange x := fun hall => h (List.forall_mem_cons.2 ⟨hm, hall⟩)
      obtain ⟨before, x, after, rfl, hbefore, hx, herror⟩ := ih hrest
      refine ⟨m :: before, x, after, rfl, List.forall_mem_cons.2 ⟨hm, hbefore⟩, hx, ?_⟩
      rw [checkAllWidths, checkWidths_eq_ok_iff_inRange.2 hm]
      exact herror
    · refine ⟨[], m, ms, rfl, fun _ hb => absurd hb List.not_mem_nil, hm, ?_⟩
      rw [checkAllWidths, checkWidths_of_misfit hm]

/-! ## The order of the tests -/

/-- Once the addresses fit and the PASID is there, the table decides. -/
theorem mapPages_of_present {s : Stream} {pasid : Pasid} {t : PageTable} {ms : List Mapping}
    (hrange : ∀ m ∈ ms, s.InRange m) (ht : s.pasids[pasid]? = some t) :
    s.mapPages pasid ms = (t.mapPages ms).map (s.setPasidTable pasid) := by
  rw [mapPages, checkAllWidths_of_inRange hrange, pasidTable_eq_ok_iff.2 ht]
  dsimp only
  cases t.mapPages ms <;> rfl

/-- The bulk map of any list meets its specification. -/
theorem Session.mapsAll (x : Session) (pasid : Pasid) (ms : List Mapping) : x.MapsAll pasid ms where
  misfit h := by
    obtain ⟨before, m, after, hsplit, hbefore, hm, herror⟩ := checkAllWidths_of_misfit h
    refine ⟨before, m, after, hsplit, hbefore, hm, ?_⟩
    rw [step, mapPages, herror]
    rfl
  absent hrange habsent := by
    rw [step, mapPages, checkAllWidths_of_inRange hrange, pasidTable, habsent]
    rfl
  repeated hrange hpasid hrepeat := by
    obtain ⟨t, ht⟩ := hasPasid_eq_true.1 hpasid
    obtain ⟨before, m, after, hsplit, hnodup, hm, herror⟩ :=
      PageTable.mapPages_of_repeat (t := t) hrepeat
    refine ⟨before, m, after, hsplit, hnodup, hm, ?_⟩
    rw [step, mapPages_of_present hrange ht, herror]
    rfl
  accepted hrange t ht hnodup ms' hperm := by
    rw [step, mapPages_of_present hrange ht, (t.mapsAll ms).accepted hnodup ms' hperm]
    rfl

end Iommu.Stream
