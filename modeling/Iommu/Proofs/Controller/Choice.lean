/-
  Which of several overfull streams a refused configuration names.

  The search for a stream with too many PASIDs may find any of those there are
  (`exists_overfullStream?_eq_some`), and the choice that decides between them comes with the operation.
  Two runs of the same operations with other choices pass through the same states and answer the same, but
  for the stream that an error names (`run_unchosen`): that there is an overfull stream at all does not
  depend on the choice (`overfullStream?_eq_none`), and a configuration that finds one is refused.
-/
import Iommu.Proofs.Controller.Populated

namespace Iommu

/-- An error without the stream that was found to hold too many PASIDs. -/
def Error.unnamed : Error → Error
  | .misconfigured (.tooManyPasids _ _ limit) => .misconfigured (.tooManyPasids 0 0 limit)
  | e => e

namespace Controller

/-- An operation without its choice of the stream that is found. -/
def Op.unchosen : Op → Op
  | .updateConfiguration new _ => .updateConfiguration new 0
  | op => op

variable {c : Controller} {s : Stream} {limit : Nat}

/-- The stream found is one of the overfull ones, and each of these is found by some choice. -/
theorem exists_overfullStream?_eq_some (h : c.WellFormed) :
    (∃ found, c.overfullStream? limit found = some s) ↔
      c.streams[s.id]? = some s ∧ limit < s.pasidCount := by
  constructor
  · rintro ⟨found, hfound⟩
    rw [overfullStream?, Option.or_eq_some_iff] at hfound
    rcases hfound with hfirst | ⟨-, hrest⟩
    · obtain ⟨hs, hover⟩ := Option.filter_eq_some_iff.1 hfirst
      have hid : s.id = found := h.keyed found s hs
      exact ⟨hid ▸ hs, of_decide_eq_true hover⟩
    · obtain ⟨id, hs⟩ := mem_values.1 (List.mem_of_find?_eq_some hrest)
      have hid : s.id = id := h.keyed id s hs
      exact ⟨hid ▸ hs, by simpa using List.find?_some hrest⟩
  · rintro ⟨hs, hover⟩
    refine ⟨s.id, ?_⟩
    rw [overfullStream?, hs, Option.filter_some, if_pos (decide_eq_true hover)]
    rfl

/-- A configuration is refused under one choice as under another, with the same error but for the stream
    it names, and put in force to the same effect. -/
theorem updateConfiguration_unchosen (c : Controller) (new : Configuration) (found found' : StreamId) :
    (c.updateConfiguration new found).mapError Error.unnamed =
      (c.updateConfiguration new found').mapError Error.unnamed := by
  rw [updateConfiguration, updateConfiguration]
  cases new.problem? with
  | some p => rfl
  | none =>
    dsimp only
    split
    · rfl
    · have hnone : c.overfullStream? new.widths.pasids.toNat found = none ↔
          c.overfullStream? new.widths.pasids.toNat found' = none :=
        overfullStream?_eq_none.trans overfullStream?_eq_none.symm
      cases hfound : c.overfullStream? new.widths.pasids.toNat found with
      | none => rw [hnone.1 hfound]
      | some s =>
        cases hfound' : c.overfullStream? new.widths.pasids.toNat found' with
        | none =>
          rw [hnone.2 hfound'] at hfound
          cases hfound
        | some s' => rfl

/-- Errors that are compared in part leave the same state behind. -/
theorem settle_mapError (c : Controller) (r : Except Error Controller) (mask : Error → Error) :
    c.settle (r.mapError mask) = ((c.settle r).1, (c.settle r).2.mapError mask) := by
  cases r <;> rfl

/-- No other operation has a choice. -/
theorem Op.unchosen_eq {op : Op} (h : ∀ new found, op ≠ .updateConfiguration new found) :
    op.unchosen = op := by
  cases op with
  | updateConfiguration new found => exact absurd rfl (h new found)
  | _ => rfl

/-- Only a new configuration has a choice to differ in. -/
theorem Op.eq_or_of_unchosen_eq {op op' : Op} (h : op.unchosen = op'.unchosen) :
    op = op' ∨ ∃ new found found',
      op = .updateConfiguration new found ∧ op' = .updateConfiguration new found' := by
  by_cases hop : ∃ new found, op = .updateConfiguration new found
  · obtain ⟨new, found, rfl⟩ := hop
    cases op' with
    | updateConfiguration new' found' =>
      obtain ⟨rfl, -⟩ := Op.updateConfiguration.inj h
      exact Or.inr ⟨new, found, found', rfl, rfl⟩
    | _ => cases h
  · left
    rw [Op.unchosen_eq fun new found he => hop ⟨new, found, he⟩] at h
    subst h
    cases op' with
    | updateConfiguration new found => exact absurd ⟨new, 0, rfl⟩ hop
    | _ => rfl

/-- An operation leaves the same state under every choice, and answers the same but for the stream that an
    error names. -/
theorem step_unchosen (c : Controller) {op op' : Op} (h : op.unchosen = op'.unchosen) :
    (c.step op).1 = (c.step op').1 ∧
      (c.step op).2.mapError Error.unnamed = (c.step op').2.mapError Error.unnamed := by
  rcases Op.eq_or_of_unchosen_eq h with rfl | ⟨new, found, found', rfl, rfl⟩
  · exact ⟨rfl, rfl⟩
  · have hsame := congrArg c.settle (c.updateConfiguration_unchosen new found found')
    rw [settle_mapError, settle_mapError] at hsame
    exact Prod.mk.inj hsame

/-- So does a run. -/
theorem run_unchosen (c : Controller) {ops ops' : List Op}
    (h : ops.map Op.unchosen = ops'.map Op.unchosen) :
    (c.run ops).1 = (c.run ops').1 ∧
      (c.run ops).2.map (·.mapError Error.unnamed) = (c.run ops').2.map (·.mapError Error.unnamed) := by
  induction ops generalizing c ops' with
  | nil =>
    obtain rfl : ops' = [] := List.map_eq_nil_iff.1 h.symm
    exact ⟨rfl, rfl⟩
  | cons op ops ih =>
    cases ops' with
    | nil => cases h
    | cons op' ops' =>
      obtain ⟨hop, hops⟩ := List.cons.inj h
      obtain ⟨hstate, houtcome⟩ := c.step_unchosen hop
      obtain ⟨hrest, houtcomes⟩ := ih (c.step op).1 hops
      rw [run, run]
      dsimp only
      rw [← hstate]
      exact ⟨hrest, congrArg₂ List.cons houtcome houtcomes⟩

end Controller

end Iommu
