import LockRegistry.Proofs.Store.Effects

namespace LockRegistry

variable [Regex.Engine] {ι α : Type}

lemma Store.replay_of_idle {s : Store} {j : List (Entry ι)}
    (idle : ∀ n e, j[n]? = some e → s.instant j (n + 1) = s.instant j n) : s.replay j = s := by
  have stays (n : Nat) : s.instant j n = s := by
    induction n with
    | zero => rfl
    | succ n ih =>
      cases he : j[n]? with
      | none =>
        rw [Store.instant_succ, he]
        exact ih
      | some e => rw [idle n e he, ih]
  rw [← Store.instant_of_length_le (Nat.le_refl _), stays]

namespace Sessions

lemma instant_of_idle [DecidableEq ι] {σ : Sessions ι α} {h : List (Turn ι)} {i : ι}
    (idle : ∀ x ∈ exchanges i σ.store (σ.journal h), x.acts = false) {n : Nat} {e : Entry ι}
    (he : (σ.journal h)[n]? = some e) (mine : e.session = i) :
    σ.store.instant (σ.journal h) (n + 1) = σ.store.instant (σ.journal h) n :=
  Store.instant_succ_of_idle he (idle _ (exchange_mem σ.store he mine))

def alone (x : Op α) (s : Store) : Sessions Unit α := ⟨s, fun _ => x⟩

lemma run_alone (x : Op α) (s : Store) (ts : List (Turn Unit)) :
    (alone x s).run ts = alone (x.steps s ts).1 (x.steps s ts).2 := by
  rw [run_own (i := ()) fun _ _ => rfl]
  exact congrArg (Sessions.mk _) (funext fun i => Function.update_self ..)

lemma store_alone (x : Op α) (s : Store) (ts : List (Turn Unit)) :
    (x.steps s ts).2 = s.replay ((alone x s).journal ts) :=
  calc (x.steps s ts).2 = ((alone x s).run ts).store := by rw [run_alone]; rfl
    _ = s.replay ((alone x s).journal ts) := store_run _ ts

end Sessions

end LockRegistry
