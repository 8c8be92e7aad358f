/-
  Actions: things done to a state that stays where it is.

  An action reads and writes its state as it goes and may stop with an error at any point.  What it has
  written by then stays written: there is no working copy to throw away, so an action that fails without a
  trace does so because it tested before it wrote, or because it put back what it had changed.

  `within` does something to a part of a state, which is changed where it lies; `orUndo` puts things back
  and passes the error on.  `perform` runs an action, and the equations below say what it makes of each way
  of building one (`perform_bind` is the one that carries the rest).
-/
import Iommu.Error

namespace Iommu

/-- Something done to a state: an answer or an error, and in either case the state that is left. -/
abbrev Action (σ α : Type) := ExceptT Error (StateM σ) α

namespace Action

variable {σ τ α β : Type}

/-- The state that an action leaves, and what it answers. -/
def perform (x : Action σ α) (s : σ) : σ × Except Error α := ((x.run.run s).run).swap

/-- The action of a function from states to states and answers. -/
def ofStep (f : σ → σ × Except Error α) : Action σ α :=
  ExceptT.mk fun s => pure (f s).swap

/-- Goes on with a result, or stops with its error. -/
def check (r : Except Error α) : Action σ α :=
  match r with
  | .ok a => pure a
  | .error e => throw e

/-- Does something to a part of the state, if the state has it.  The part is written back whatever came
    of it. -/
def within (part : σ → Except Error τ) (write : σ → τ → σ) (x : Action τ α) : Action σ α := do
  let s ← get
  let t ← check (part s)
  let (t', answer) := x.perform t
  set (write s t')
  check answer

/-- Does something whose failure is passed over. -/
def attempt (x : Action σ Unit) : Action σ Unit := tryCatch x fun _ => pure ()

/-- Does something and, if it fails, something else before the failure is passed on. -/
def orUndo (x undo : Action σ Unit) : Action σ Unit :=
  tryCatch x fun e => do
    undo
    throw e

/-! ## What is performed -/

/-- A function is performed by applying it. -/
@[simp] theorem perform_ofStep (f : σ → σ × Except Error α) (s : σ) : (ofStep f).perform s = f s := rfl

@[simp] theorem perform_pure (a : α) (s : σ) : (pure a : Action σ α).perform s = (s, .ok a) := rfl

/-- An error leaves what was written. -/
@[simp] theorem perform_throw (e : Error) (s : σ) :
    (throw e : Action σ α).perform s = (s, .error e) := rfl

@[simp] theorem perform_set (s t : σ) : (set t : Action σ PUnit).perform s = (t, .ok ()) := rfl

@[simp] theorem perform_modify (f : σ → σ) (s : σ) :
    (modify f : Action σ PUnit).perform s = (f s, .ok ()) := rfl

/-- What reads the state first goes on with it. -/
@[simp] theorem perform_get_bind (f : σ → Action σ α) (s : σ) :
    (get >>= f).perform s = (f s).perform s := rfl

/-- A test reads nothing and writes nothing; it passes its result on. -/
@[simp] theorem perform_check (r : Except Error α) (s : σ) :
    (check r : Action σ α).perform s = (s, r) := by
  cases r <;> rfl

/-- What comes second starts in the state that what came first has left, and only if that did not fail. -/
theorem perform_bind (x : Action σ α) (f : α → Action σ β) (s : σ) :
    (x >>= f).perform s =
      match x.perform s with
      | (s', .ok a) => (f a).perform s'
      | (s', .error e) => (s', .error e) := by
  unfold perform ExceptT.run StateT.run Id.run
  simp only [bind, ExceptT.bind, ExceptT.mk, StateT.bind, ExceptT.bindCont]
  cases x s with
  | mk answer s' => cases answer <;> rfl

/-- Whoever handles an error finds the state as the error left it. -/
theorem perform_tryCatch (x : Action σ α) (f : Error → Action σ α) (s : σ) :
    (tryCatch x f).perform s =
      match x.perform s with
      | (s', .ok a) => (s', .ok a)
      | (s', .error e) => (f e).perform s' := by
  unfold perform ExceptT.run StateT.run Id.run
  simp only [tryCatch, tryCatchThe, MonadExceptOf.tryCatch, ExceptT.tryCatch, ExceptT.mk, bind,
    StateT.bind]
  cases x s with
  | mk answer s' => cases answer <;> rfl

/-- What is done to a part that exists is written back, whatever came of it. -/
theorem perform_within (part : σ → Except Error τ) (write : σ → τ → σ) (x : Action τ α) (s : σ) :
    (within part write x).perform s =
      match part s with
      | .ok t => (write s (x.perform t).1, (x.perform t).2)
      | .error e => (s, .error e) := by
  rw [within, perform_get_bind, perform_bind, perform_check]
  cases part s with
  | error e => rfl
  | ok t =>
    dsimp only
    rw [perform_bind, perform_set]
    exact perform_check ..

/-- A failure is passed over, but what it wrote stays. -/
theorem perform_attempt (x : Action σ Unit) (s : σ) :
    x.attempt.perform s = ((x.perform s).1, .ok ()) := by
  rw [attempt, perform_tryCatch]
  cases x.perform s with
  | mk s' answer => cases answer <;> rfl

/-- Undoing starts from what the failure has left, and ends with the same error. -/
theorem perform_orUndo (x undo : Action σ Unit) (s : σ) :
    (x.orUndo undo).perform s =
      match x.perform s with
      | (s', .ok a) => (s', .ok a)
      | (s', .error e) => (undo >>= fun _ => throw e).perform s' := by
  rw [orUndo, perform_tryCatch]
  cases x.perform s with
  | mk s' answer => cases answer <;> rfl

end Action

end Iommu
