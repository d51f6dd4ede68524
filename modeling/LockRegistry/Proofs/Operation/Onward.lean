import LockRegistry.Proofs.Operation
import Mathlib.Data.Fintype.EquivFin

namespace LockRegistry

variable {ι κ α : Type}

def Turn.given (i : κ) (t : Turn ι) : Turn κ where
  session := i
  now := t.now
  clock := t.clock
  fired := t.fired

variable [Regex.Engine]

lemma Op.step_given (x : Op α) (s : Store) (i : κ) (t : Turn ι) :
    x.step s (t.given i) = x.step s t := by
  unfold step
  cases x.action <;> rfl

lemma Op.steps_given (x : Op α) (s : Store) (i : κ) (ts : List (Turn ι)) :
    x.steps s (ts.map (Turn.given i)) = x.steps s ts := by
  induction ts generalizing x s with
  | nil => rfl
  | cons t ts ih => rw [List.map_cons, steps_cons, steps_cons, step_given, ih]

namespace Sessions

variable [DecidableEq ι] {σ : Sessions ι α} {i : ι} {ts : List (Turn ι)}

def assign (σ : Sessions ι α) (i : ι) (x : Op α) : Sessions ι α where
  store := σ.store
  op := Function.update σ.op i x

lemma run_assign (idle : ∀ t ∈ ts, t.session ≠ i) (x : Op α) :
    (σ.assign i x).run ts = (σ.run ts).assign i x := by
  induction ts generalizing σ with
  | nil => rfl
  | cons t ts ih =>
    obtain ⟨other, idle⟩ := List.forall_mem_cons.1 idle
    have next : (σ.assign i x).step t = (σ.step t).assign i x := by
      simp only [step, assign, Function.update_of_ne other, Function.update_comm other]
    calc (σ.assign i x).run (t :: ts) = ((σ.assign i x).step t).run ts := rfl
      _ = (σ.run (t :: ts)).assign i x := by rw [next, ih idle]; rfl

lemma start_update (calls : ι → Operation) (i : ι) (o : Operation) :
    start (Function.update calls i o) = (start calls).assign i o.op := by
  refine congrArg (Sessions.mk .empty) (funext fun j => ?_)
  exact Function.apply_update (fun _ => Operation.op) calls i o j

end Sessions

lemma Store.Reachable.steps {s : Store} (hs : s.Reachable) (o : Operation) (ts : List (Turn ι)) :
    (o.op.steps s ts).2.Reachable := by
  obtain ⟨calls, h, rfl⟩ := hs
  obtain ⟨i, fresh⟩ := Infinite.exists_notMem_finset (h.map Turn.session).toFinset
  have idle : ∀ t ∈ h, t.session ≠ i := fun t mem own =>
    fresh (List.mem_toFinset.2 (own ▸ List.mem_map_of_mem mem))
  have own : ∀ t ∈ ts.map (Turn.given i), t.session = i := by simp [Turn.given]
  refine ⟨Function.update calls i o, h ++ ts.map (Turn.given i), ?_⟩
  calc ((Sessions.start (Function.update calls i o)).run (h ++ ts.map (Turn.given i))).store
      = ((((Sessions.start calls).run h).assign i o.op).run (ts.map (Turn.given i))).store := by
        rw [Sessions.start_update, Sessions.run, List.foldl_append, ← Sessions.run_assign idle]
        rfl
    _ = (o.op.steps ((Sessions.start calls).run h).store (ts.map (Turn.given i))).2 := by
        simp only [Sessions.run_own own, Sessions.assign, Function.update_self]
    _ = (o.op.steps ((Sessions.start calls).run h).store ts).2 := by rw [Op.steps_given]

end LockRegistry
