/-
  Tables and streams are changed in place as a whole or not at all.

  The bulk operations test their whole list before they write the first page, so a list that is refused
  finds the table as it was (`commits_mapPages`, `commits_unmapPages`); what the loops write is the fold
  that the functions write.  On a stream the widths are tested before the PASID is looked up, and the
  table of the PASID is changed inside the stream (`commits_onTable`).  Removing a PASID is the
  exception: it writes first, but what it writes when the PASID is absent is what was there
  (`commits_removePasid`).
-/
import Iommu.Proofs.Action
import Iommu.Proofs.Stream.Edit
import Iommu.Stream.InPlace

open Iommu.Action

namespace Iommu

/-- Erasing what is not there changes nothing. -/
theorem erase_of_contains_eq_false {α β : Type} [Ord α] [Std.TransOrd α] [Std.LawfulEqOrd α]
    {m : Std.ExtTreeMap α β} {k : α} (h : m.contains k = false) : m.erase k = m := by
  have hnone : m[k]? = none := by
    rwa [Std.ExtTreeMap.contains_eq_isSome_getElem?, Option.isSome_eq_false_iff,
      Option.isNone_iff_eq_none] at h
  refine Std.ExtTreeMap.ext_getElem? fun k' => ?_
  rw [Std.ExtTreeMap.getElem?_erase]
  split
  · rename_i hk
    rw [← Std.LawfulEqOrd.eq_of_compare hk, hnone]
  · rfl

/-! ## Page tables -/

namespace PageTable

/-- The test for repetitions reads only, and finds the first one. -/
theorem perform_checkRepeats (seen : List UInt64) (ms : List Mapping) (t : PageTable) :
    (InPlace.checkRepeats seen ms).perform t =
      (t, match firstRepeat seen (ms.map Mapping.page) with
        | some p => .error (.pageAlreadyMapped p)
        | none => .ok ()) := by
  induction ms generalizing seen with
  | nil => rfl
  | cons m ms ih =>
    rw [InPlace.checkRepeats, List.map_cons, firstRepeat]
    split
    · rfl
    · exact ih (m.page :: seen)

/-- The test for missing pages reads only, and finds the first one. -/
theorem perform_checkMapped (as : List UInt64) (t : PageTable) :
    (InPlace.checkMapped as).perform t =
      (t, match as.find? fun a => !t.isMapped a with
        | some a => .error (.pageNotMapped a)
        | none => .ok ()) := by
  induction as with
  | nil => rfl
  | cons a as ih =>
    rw [InPlace.checkMapped, perform_get_bind, List.find?_cons]
    cases t.isMapped a with
    | true => exact ih
    | false => rfl

/-- The table is written only once all pages passed the check. -/
theorem commits_mapPages (t : PageTable) (ms : List Mapping) :
    (InPlace.mapPages ms).Commits t ((t.mapPages ms).map (·, ())) := by
  have hcheck := perform_checkRepeats [] ms t
  rw [mapPages]
  cases hrepeat : firstRepeat [] (ms.map Mapping.page) with
  | some p =>
    rw [hrepeat] at hcheck
    exact Commits.checked (g := fun _ => .ok (t, ())) hcheck fun _ h => by cases h
  | none =>
    rw [hrepeat] at hcheck
    exact Commits.checked (g := fun _ => .ok (ms.foldl map t, ())) hcheck fun _ _ =>
      perform_forM_modify map ms t

/-- Every page is looked for before any is removed. -/
theorem commits_unmapPages (t : PageTable) (as : List UInt64) :
    (InPlace.unmapPages as).Commits t ((t.unmapPages as).map (·, ())) := by
  have hcheck := perform_checkMapped as t
  rw [unmapPages]
  cases hmissing : as.find? fun a => !t.isMapped a with
  | some a =>
    rw [hmissing] at hcheck
    exact Commits.checked (g := fun _ => .ok (t, ())) hcheck fun _ h => by cases h
  | none =>
    rw [hmissing] at hcheck
    exact Commits.checked (g := fun _ => .ok (as.foldl unmap t, ())) hcheck fun _ _ =>
      perform_forM_modify unmap as t

/-- A change given as data is carried out as a whole or not at all. -/
theorem commits_edit (t : PageTable) (op : Op) : (InPlace.edit op).Commits t (t.step op) := by
  cases op with
  | map m => exact commits_of_ok rfl
  | unmap a => exact commits_of_ok rfl
  | mapPages ms =>
    have h := (commits_mapPages t ms).followed (f := fun _ => pure true)
      (g := fun p => (p.1, true)) fun _ _ => rfl
    rw [step]
    cases hm : t.mapPages ms <;> rwa [hm] at h
  | unmapPages as =>
    have h := (commits_unmapPages t as).followed (f := fun _ => pure true)
      (g := fun p => (p.1, true)) fun _ _ => rfl
    rw [step]
    cases hu : t.unmapPages as <;> rwa [hu] at h
  | clear => exact commits_of_ok rfl

end PageTable

/-! ## Streams -/

namespace Stream

variable {α : Type}

/-- A refused configuration is not stored. -/
theorem commits_configure (s : Stream) (config : StreamConfig) :
    (InPlace.configure config).Commits s ((s.configure config).map (·, ())) := by
  rw [Commits, InPlace.configure, perform_get_bind, configure]
  split <;> rfl

/-- A PASID refused for its number or for want of room leaves the stream. -/
theorem commits_createPasid (s : Stream) (pasid : Pasid) :
    (InPlace.createPasid pasid).Commits s ((s.createPasid pasid).map (·, ())) := by
  rw [Commits, InPlace.createPasid, perform_get_bind, createPasid]
  split
  · rfl
  split
  · rfl
  split <;> rfl

/-- What is taken out without having been there leaves the stream as it was. -/
theorem commits_removePasid (s : Stream) (pasid : Pasid) :
    (InPlace.removePasid pasid).Commits s ((s.removePasid pasid).map (·, ())) := by
  rw [Commits, InPlace.removePasid, perform_get_bind, perform_bind, perform_set, removePasid]
  cases h : s.hasPasid pasid with
  | true => rfl
  | false =>
    have hsame : s.pasids.erase pasid = s.pasids := erase_of_contains_eq_false h
    rw [hsame]
    rfl

/-- The table of a PASID is changed inside the stream, and a change that fails writes back the table that
    was there. -/
theorem commits_onTable {x : Action PageTable α} (s : Stream) (pasid : Pasid)
    (r : PageTable → Except Error (PageTable × α)) (hx : ∀ t, x.Commits t (r t)) :
    (InPlace.onTable pasid x).Commits s
      ((s.pasidTable pasid).bind fun t => (r t).map fun p => (s.setPasidTable pasid p.1, p.2)) := by
  cases ht : s.pasidTable pasid with
  | error e => exact commits_within_of_error ht
  | ok t => exact (hx t).within ht (setPasidTable_self (pasidTable_eq_ok_iff.1 ht))

/-- So it is when the change answers nothing. -/
theorem commits_onTable_unit {x : Action PageTable Unit} (s : Stream) (pasid : Pasid)
    {r : PageTable → Except Error PageTable} (hx : ∀ t, x.Commits t ((r t).map (·, ()))) :
    (InPlace.onTable pasid x).Commits s
      (Except.map (·, ()) <| match s.pasidTable pasid with
        | .error e => .error e
        | .ok t =>
          match r t with
          | .error e => .error e
          | .ok t' => .ok (s.setPasidTable pasid t')) := by
  have h := commits_onTable s pasid _ hx
  cases ht : s.pasidTable pasid with
  | error e => rwa [ht] at h
  | ok t =>
    rw [ht] at h
    change Commits _ s (((r t).map (·, ())).map fun p => (s.setPasidTable pasid p.1, p.2)) at h
    dsimp only
    cases hr : r t <;> rwa [hr] at h

/-- The test of a list of mappings reads only, and stops at the first that does not fit. -/
theorem perform_forM_checkWidths (s : Stream) (ms : List Mapping) :
    (ms.forM InPlace.checkWidths).perform s = (s, s.checkAllWidths ms) := by
  induction ms with
  | nil => rfl
  | cons m ms ih =>
    have hm : (InPlace.checkWidths m).perform s = (s, s.checkWidths m) := perform_check ..
    rw [perform_forM_cons, perform_bind, hm, checkAllWidths]
    cases s.checkWidths m with
    | error e => rfl
    | ok _ => exact ih

/-- The widths are tested, then the PASID is looked up, and only then is the page written. -/
theorem commits_map (s : Stream) (pasid : Pasid) (m : Mapping) :
    (InPlace.map pasid m).Commits s ((s.map pasid m).map (·, ())) := by
  have hcheck : (InPlace.checkWidths m).perform s = (s, s.checkWidths m) := perform_check ..
  have h := Commits.checked hcheck fun _ _ =>
    commits_onTable_unit s pasid (r := fun t => .ok (t.map m)) fun _ =>
      commits_of_ok (x := PageTable.InPlace.map m) rfl
  rw [map]
  cases hw : s.checkWidths m <;> rwa [hw] at h

theorem commits_unmap (s : Stream) (pasid : Pasid) (a : UInt64) :
    (InPlace.unmap pasid a).Commits s (s.unmap pasid a) := by
  have h := commits_onTable s pasid (fun t => .ok (t.unmap a, t.isMapped a)) fun _ =>
    commits_of_ok (x := PageTable.InPlace.unmap a) rfl
  rw [unmap]
  cases ht : s.pasidTable pasid <;> rwa [ht] at h

/-- Two layers test the whole list, each in its turn, before the first page is written. -/
theorem commits_mapPages (s : Stream) (pasid : Pasid) (ms : List Mapping) :
    (InPlace.mapPages pasid ms).Commits s ((s.mapPages pasid ms).map (·, ())) := by
  have h := Commits.checked (perform_forM_checkWidths s ms) fun _ _ =>
    commits_onTable_unit s pasid (PageTable.commits_mapPages · ms)
  rw [mapPages]
  cases hw : s.checkAllWidths ms <;> rwa [hw] at h

/-- On a stream, the PASID is looked up first and its table then changed or left. -/
theorem commits_unmapPages (s : Stream) (pasid : Pasid) (as : List UInt64) :
    (InPlace.unmapPages pasid as).Commits s ((s.unmapPages pasid as).map (·, ())) :=
  commits_onTable_unit s pasid (PageTable.commits_unmapPages · as)

end Stream

end Iommu
