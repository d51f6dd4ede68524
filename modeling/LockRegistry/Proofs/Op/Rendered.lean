import LockRegistry.Database.Server
import LockRegistry.Proofs.Sessions

namespace LockRegistry

variable {ι α β : Type}

namespace Op

variable (f : α → β) (x : Op α)

lemma action_map : (f <$> x).action = x.action.andThen (f <$> ·) fun r => .done (r.map f) := by
  induction x with
  | done result => cases result <;> rfl
  | log event next ih => rfl
  | call c next ih => rfl
  | clock next ih => rfl
  | wait w next ih =>
    -- only where the wait is over is it the value that decides the step
    change w.action.andThen _ (fun r => (f <$> next r).action) = (w.action.andThen _ _).andThen _ _
    cases w.action with
    | done result => exact ih result
    | _ => rfl

lemma result?_map : (f <$> x).result? = x.result?.map (Except.map f) := by
  unfold result?
  rw [action_map]
  cases x.action with
  | done result => cases result <;> rfl
  | _ => rfl

variable [Regex.Engine]

lemma step_map (s : Store) (t : Turn ι) :
    (f <$> x).step s t = (f <$> (x.step s t).1, (x.step s t).2) := by
  unfold step
  rw [action_map]
  cases h : x.action with
  | done result => cases result <;> rfl
  | _ => rfl

end Op

namespace Sessions

variable [DecidableEq ι]

def seat (σ : Sessions ι α) (i : ι) (x : Op α) : Sessions ι α :=
  { σ with op := Function.update σ.op i x }

@[simp] lemma store_seat (σ : Sessions ι α) (i : ι) (x : Op α) : (σ.seat i x).store = σ.store := rfl

@[simp] lemma op_seat (σ : Sessions ι α) (i : ι) (x : Op α) : (σ.seat i x).op i = x :=
  Function.update_self ..

variable [Regex.Engine]

lemma run_seat_map (σ : Sessions ι β) (i : ι) (x : Op α) (h : List (Turn ι)) :
    ∃ (x' : Op α) (σ' : Sessions ι β), ∀ f : α → β,
      (σ.seat i (f <$> x)).run h = σ'.seat i (f <$> x') := by
  induction h generalizing σ x with
  | nil => exact ⟨x, σ, fun f => rfl⟩
  | cons t h ih =>
    by_cases own : t.session = i
    · subst own
      obtain ⟨x', σ', same⟩ := ih { σ with store := (x.step σ.store t).2 } (x.step σ.store t).1
      refine ⟨x', σ', fun f => ?_⟩
      have step : (σ.seat t.session (f <$> x)).step t =
          seat { σ with store := (x.step σ.store t).2 } t.session (f <$> (x.step σ.store t).1) := by
        simp only [step, seat, Function.update_self, Op.step_map, Function.update_idem]
      exact (congrArg (run · h) step).trans (same f)
    · obtain ⟨x', σ', same⟩ := ih (σ.step t) x
      refine ⟨x', σ', fun f => ?_⟩
      have step : (σ.seat i (f <$> x)).step t = (σ.step t).seat i (f <$> x) := by
        simp only [step, seat, Function.update_of_ne own]
        rw [Function.update_comm (Ne.symm own)]
      exact (congrArg (run · h) step).trans (same f)

end Sessions

namespace Database.Client

variable {σ : Type} (s : Server σ) (f : α → β)

lemma run_map (fuel : Nat) (x : Op α) (c : Client σ) :
    run s fuel (f <$> x) c = ((run s fuel x c).1.map f, (run s fuel x c).2) := by
  induction fuel generalizing x c with
  | zero =>
    simp only [run, Op.result?_map]
    cases x.result? <;> rfl
  | succ fuel ih =>
    simp only [run, Op.action_map]
    cases x.action with
    | done result => rfl
    | log event next => exact ih next _
    | call call next => exact ih (next _) _
    | clock next => exact ih _ c
    | token next => exact ih _ c
    | nap length next => exact ih _ _

end Database.Client

end LockRegistry
