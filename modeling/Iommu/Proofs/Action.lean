/-
  Actions that are carried out as a whole or not at all.

  `Commits` compares an action with a function that answers the next state or an error.  Where the function
  succeeds the action leaves that state with that answer, and where it fails the action fails with that
  error and the state is as it was, although it was written where it stood.

  Two shapes make up almost all of them.  What comes first may fail as long as it only reads
  (`Commits.checked`), and what comes last may write as long as it cannot fail (`Commits.followed`).  A
  part of a state is committed inside the whole when writing back what was there changes nothing
  (`Commits.within`).

  Where writes and tests alternate, a test that fails must undo the writes before it.  Such an action does
  not start in the state that it has to restore, so it is described by `settle` alone, with the state to
  be restored in front (`perform_orUndo_settle`).
-/
import Iommu.Action

namespace Iommu.Action

variable {σ τ α β : Type} {x : Action σ α} {f : α → Action σ β} {s s' : σ}

/-- The state left and the answer given when a failure leaves the state as it was. -/
def settle (s : σ) (r : Except Error (σ × α)) : σ × Except Error α :=
  match r with
  | .ok (s', a) => (s', .ok a)
  | .error e => (s, .error e)

/-- The action does in a state what is prescribed there, as a whole or not at all. -/
def Commits (x : Action σ α) (s : σ) (r : Except Error (σ × α)) : Prop := x.perform s = settle s r

/-- What fails as prescribed leaves the state as it was. -/
theorem Commits.of_error {r : Except Error (σ × α)} (h : x.Commits s r) {e : Error}
    (he : (x.perform s).2 = .error e) : (x.perform s).1 = s := by
  rw [Commits] at h
  rw [h] at he ⊢
  cases r with
  | ok p => cases he
  | error e' => rfl

/-- An action that cannot fail. -/
theorem commits_of_ok {a : α} (h : x.perform s = (s', .ok a)) : x.Commits s (.ok (s', a)) := h

/-- After something that only reads, and may fail. -/
theorem Commits.checked {q : Except Error α} {g : α → Except Error (σ × β)}
    (hx : x.perform s = (s, q)) (hf : ∀ a, q = .ok a → (f a).Commits s (g a)) :
    (x >>= f).Commits s (q.bind g) := by
  rw [Commits, perform_bind, hx]
  cases q with
  | error e => rfl
  | ok a => exact hf a rfl

/-- Before something that writes, and cannot fail. -/
theorem Commits.followed {r : Except Error (σ × α)} {g : σ × α → σ × β} (hx : x.Commits s r)
    (hf : ∀ p, r = .ok p → (f p.2).perform p.1 = ((g p).1, .ok (g p).2)) :
    (x >>= f).Commits s (r.map g) := by
  rw [Commits] at hx
  rw [Commits, perform_bind, hx]
  cases r with
  | error e => rfl
  | ok p => exact hf p rfl

/-- A part that the state has is changed as a whole or not at all, and so is the state: what is written
    back after a failure is what was there. -/
theorem Commits.within {part : σ → Except Error τ} {write : σ → τ → σ} {y : Action τ α} {t : τ}
    {r : Except Error (τ × α)} (hy : y.Commits t r) (hpart : part s = .ok t)
    (hback : write s t = s) :
    (within part write y).Commits s (r.map fun p => (write s p.1, p.2)) := by
  rw [Commits] at hy
  rw [Commits, perform_within, hpart]
  dsimp only
  rw [hy]
  cases r with
  | ok p => rfl
  | error e => exact Prod.ext hback rfl

/-- A part that the state does not have is not changed. -/
theorem commits_within_of_error {part : σ → Except Error τ} {write : σ → τ → σ} {y : Action τ α}
    {e : Error} (hpart : part s = .error e) : (within part write y).Commits s (.error e) := by
  rw [Commits, perform_within, hpart]
  rfl

/-- What is computed first, and may fail, is written. -/
theorem commits_check_set (q : Except Error τ) (write : τ → σ) :
    (check q >>= fun t => set (write t) : Action σ Unit).Commits s
      (q.map fun t => (write t, ())) := by
  rw [Commits, perform_bind, perform_check]
  cases q <;> rfl

/-! ## Undoing -/

/-- A failure that left the state in `s'` is undone when undoing leads from there to `s`. -/
theorem perform_orUndo_settle {y undo : Action σ Unit} {r : Except Error (σ × Unit)}
    (hy : y.Commits s' r) (hundo : undo.perform s' = (s, .ok ())) :
    (y.orUndo undo).perform s' = settle s r := by
  rw [Commits] at hy
  rw [perform_orUndo, hy]
  cases r with
  | ok p => rfl
  | error e =>
    show (undo >>= fun _ => throw e : Action σ Unit).perform s' = (s, .error e)
    rw [perform_bind, hundo]
    exact perform_throw e s

/-! ## Loops -/

/-- A loop that tests goes on until a test fails. -/
theorem perform_forM_cons {f : α → Action σ Unit} (a : α) (as : List α) (s : σ) :
    ((a :: as).forM f).perform s = (f a >>= fun _ => as.forM f).perform s := rfl

/-- A loop that writes folds its list into the state. -/
theorem perform_forM_modify (f : σ → α → σ) (as : List α) (s : σ) :
    (as.forM fun a => (modify (f · a) : Action σ PUnit)).perform s = (as.foldl f s, .ok ()) := by
  induction as generalizing s with
  | nil => rfl
  | cons a as ih =>
    rw [perform_forM_cons, perform_bind, perform_modify]
    exact ih (f s a)

end Iommu.Action
