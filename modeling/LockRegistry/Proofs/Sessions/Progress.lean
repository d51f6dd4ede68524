import LockRegistry.Proofs.Sessions

namespace LockRegistry

variable {ι α : Type}

namespace Op

inductive EndsWithin : Nat → Op α → Prop
  | done {n : Nat} {x : Op α} {r : Except LockError α} (h : x.action = .done r) : EndsWithin n x
  | step {n : Nat} {x : Op α} (h : ∀ l y, x.action.Leads l y → EndsWithin n y) :
      EndsWithin (n + 1) x

lemma endsWithin_call {n : Nat} {c : Call} {next : Except DatabaseError c.Reply → Op α}
    (h : ∀ a, EndsWithin n (next (.ok a))) : EndsWithin (n + 1) (call c next) :=
  .step fun _ _ leads => by cases leads; exact h _

lemma endsWithin_log {n : Nat} {event : LogEvent} {x : Op α} (h : EndsWithin n x) :
    EndsWithin (n + 1) (log event x) :=
  .step fun _ _ leads => by cases leads; exact h

lemma EndsWithin.result? {x : Op α} (h : EndsWithin 0 x) : ∃ r, x.result? = some r := by
  cases h with
  | done ended => exact ⟨_, by rw [Op.result?, ended]⟩

variable [Regex.Engine]

lemma step_of_done {x : Op α} {r : Except LockError α} (h : x.action = .done r) (s : Store)
    (t : Turn ι) : x.step s t = (x, s) := by
  rw [step, h]

lemma leads_step (x : Op α) (s : Store) (t : Turn ι) :
    (∃ r, x.action = .done r) ∨ ∃ l, x.action.Leads l (x.step s t).1 := by
  unfold step
  cases h : x.action with
  | done r => exact .inl ⟨r, rfl⟩
  | log event next => exact .inr ⟨_, .log event next⟩
  | call c next => exact .inr ⟨_, .call c next _⟩
  | clock next => exact .inr ⟨_, .clock next _⟩
  | token next => exact .inr ⟨_, .token next _⟩
  | nap length next => exact .inr ⟨_, .nap length next _⟩

lemma EndsWithin.after {n : Nat} {x : Op α} (h : EndsWithin n x) (s : Store) (t : Turn ι) :
    EndsWithin (n - 1) (x.step s t).1 := by
  rcases leads_step x s t with ⟨r, ended⟩ | ⟨l, leads⟩
  · rw [step_of_done ended]
    exact .done ended
  · cases h with
    | done ended =>
      rw [ended] at leads
      cases leads
    | step next => exact next l _ leads

end Op

variable [Regex.Engine]

lemma Sessions.exists_result? [DecidableEq ι] {σ : Sessions ι α} {h : List (Turn ι)} {i : ι}
    {n : Nat} (ends : (σ.op i).EndsWithin n) (turns : n ≤ h.countP (·.session = i)) :
    ∃ r, (σ.run h).result? i = some r := by
  induction h generalizing σ n with
  | nil =>
    obtain rfl := Nat.le_zero.1 turns
    exact ends.result?
  | cons t h ih =>
    by_cases own : t.session = i
    · subst own
      have rest : ((σ.step t).op t.session).EndsWithin (n - 1) := by
        simpa [step] using ends.after σ.store t
      refine ih rest ?_
      simp only [List.countP_cons, decide_true, if_true] at turns
      omega
    · have rest : ((σ.step t).op i).EndsWithin n := by
        simpa [step, Ne.symm own] using ends
      exact ih rest (by simpa [own] using turns)

end LockRegistry
