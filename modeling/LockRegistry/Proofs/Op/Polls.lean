import LockRegistry.Proofs.Op.Rounds
import LockRegistry.Proofs.Op.Runs

namespace LockRegistry

def looks (key : LockKey) (n : Nat) : List Exchange := List.replicate n ⟨.lockExists key, true⟩

namespace Wait

variable {w : Wait} {l : List Exchange} {r : Except LockError Ending}

def Polled (key : LockKey) (l : List Exchange) : Except LockError Ending → Prop
  | .ok .released => ∃ n, l = looks key n ++ [⟨.lockExists key, false⟩]
  | .ok .timedOut => ∃ n, l = looks key n ++ [⟨.lockExists key, true⟩]
  | .error e => e = .cancelled ∧ ∃ n, l = looks key n

lemma Polled.cons {key : LockKey} (h : Polled key l r) :
    Polled key (⟨.lockExists key, true⟩ :: l) r := by
  match r, h with
  | .ok .released, ⟨n, h⟩ => exact ⟨n + 1, h ▸ rfl⟩
  | .ok .timedOut, ⟨n, h⟩ => exact ⟨n + 1, h ▸ rfl⟩
  | .error _, ⟨h, n, h'⟩ => exact ⟨h, n + 1, h' ▸ rfl⟩

lemma Rounds.polled {key : LockKey} {poll : Nat} {deadline : Option Nat} {t : List Sight}
    (h : Rounds key poll deadline t r) : Polled key (exchangesOf t) r := by
  induction h with
  | fired => exact ⟨rfl, 0, rfl⟩
  | released => exact ⟨0, rfl⟩
  | timedOut => exact ⟨0, rfl⟩
  | woken pause => cases pause <;> exact ⟨rfl, 1, rfl⟩
  | again pause _ ih => cases pause <;> exact ih.cons

lemma polled_of_runs {key : LockKey} {timeout poll : Nat}
    (h : Runs action { key := key, timeout := timeout, poll := poll } l r) : Polled key l r := by
  obtain ⟨t, traces, rfl⟩ := runs_iff.1 h
  obtain ⟨start, t, rfl, rounds⟩ := traces_iff_rounds.1 traces
  exact rounds.polled

lemma runs_of_pending (w : Wait) (h : Runs action { w with pending := [] } l r) :
    Runs action w l r := by
  obtain ⟨key, timeout, poll, phase, pending⟩ := w
  induction pending with
  | nil => exact h
  | cons e es ih => exact .step (x := []) (.log e _) (ih h)

lemma runs_goTo_over (w : Wait) (r : Except LockError Ending) :
    Runs action (w.goTo (.over r)) [] r :=
  .done rfl

lemma exists_runs (w : Wait) : ∃ l r, Runs action w l r := by
  have ready (w : Wait) (d : Option Nat) (polls : UInt32) :
      Runs action (w.goTo (.ready d polls)) [] (.error .cancelled) :=
    .step (x := []) (.token _ true) (runs_goTo_over w _)
  have ended (w : Wait) (r : Except LockError Ending) (message : String)
      (fields : List (String × LogValue)) :
      Runs action (w.goSaying (.over r) message fields) [] r :=
    .step (x := []) (.log _ _) (runs_goTo_over w _)
  suffices h : ∃ l r, Runs action { w with pending := [] } l r by
    obtain ⟨l, r, h⟩ := h
    exact ⟨l, r, runs_of_pending w h⟩
  obtain ⟨key, timeout, poll, phase, pending⟩ := w
  cases phase with
  | start =>
    refine ⟨[], .error .cancelled, .step (x := []) (.clock _ 0) (runs_of_pending _ ?_)⟩
    unfold begun
    split <;> exact ready _ _ _
  | ready d polls => exact ⟨[], _, .step (x := []) (.token _ true) (runs_goTo_over _ _)⟩
  | look d polls =>
    refine ⟨[_] ++ [], .ok .released, .step (.call (.lockExists key) _ false) ?_⟩
    exact ended _ _ _ _
  | held d polls =>
    refine ⟨[], .ok .timedOut, .step (x := []) (.clock _ d) ?_⟩
    unfold compared
    rw [if_pos (Nat.le_refl d)]
    exact ended _ _ _ _
  | nap d polls length => exact ⟨[], _, .step (x := []) (.nap _ _ true) (ended _ _ _ _)⟩
  | «over» result => exact ⟨[], result, .done rfl⟩

end Wait

lemma Op.Makes.await {α : Type} {key : LockKey} {timeout poll : Nat} {k : Wait.Ending → Op α}
    {l : List Exchange} {r : Except LockError α}
    (h : (Op.await key timeout poll >>= k).Makes l r) :
    (∃ n, l = looks key n ∧ r = .error .cancelled) ∨
      (∃ n l', l = looks key n ++ ⟨.lockExists key, true⟩ :: l' ∧ (k .timedOut).Makes l' r) ∨
      ∃ n l', l = looks key n ++ ⟨.lockExists key, false⟩ :: l' ∧ (k .released).Makes l' r := by
  obtain ⟨e, l₁, l₂, rfl, hw, hk⟩ := Op.makes_wait.1 h
  match e, Wait.polled_of_runs hw with
  | .ok .released, ⟨n, hn⟩ => exact .inr (.inr ⟨n, l₂, hn ▸ List.append_assoc .., hk⟩)
  | .ok .timedOut, ⟨n, hn⟩ => exact .inr (.inl ⟨n, l₂, hn ▸ List.append_assoc .., hk⟩)
  | .error e, ⟨he, n, hn⟩ =>
    obtain ⟨rfl, rfl⟩ := Op.makes_done.1 hk
    exact .inl ⟨n, (List.append_nil l₁).trans hn, he ▸ rfl⟩

instance (c : Call) : Inhabited c.Reply := by
  cases c <;> infer_instance

lemma Op.exists_makes {α : Type} (x : Op α) : ∃ l r, x.Makes l r := by
  induction x with
  | done r => exact ⟨[], r, .done rfl⟩
  | log event next ih =>
    obtain ⟨l, r, h⟩ := ih
    exact ⟨l, r, makes_log.2 h⟩
  | call c next ih =>
    obtain ⟨l, r, h⟩ := ih (.ok default)
    exact ⟨_, r, makes_call.2 ⟨default, l, rfl, h⟩⟩
  | clock next ih =>
    obtain ⟨l, r, h⟩ := ih 0
    exact ⟨l, r, makes_clock.2 ⟨0, h⟩⟩
  | wait w next ih =>
    obtain ⟨l, r, hw⟩ := w.exists_runs
    obtain ⟨l', r', h⟩ := ih r
    exact ⟨_, r', makes_wait.2 ⟨r, l, l', rfl, hw, h⟩⟩

end LockRegistry
