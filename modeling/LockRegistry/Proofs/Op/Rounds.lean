import LockRegistry.Proofs.Op.Traces

/-! A wait goes in rounds: it looks at its token and then at its key, and naps while the key is
held. -/

namespace LockRegistry.Wait

def finding (key : LockKey) : List Sight := [.token false, .asked ⟨.lockExists key, true⟩]

inductive Pause (poll : Nat) : Option Nat → List Sight → Nat → Prop
  | unbounded : Pause poll none [] poll
  | bounded {d now : Nat} (before : now < d) :
      Pause poll (some d) [.clock now] (min poll (d - now))

inductive Rounds (key : LockKey) (poll : Nat) (deadline : Option Nat) :
    List Sight → Except LockError Ending → Prop
  | fired : Rounds key poll deadline [.token true] (.error .cancelled)
  | released :
      Rounds key poll deadline [.token false, .asked ⟨.lockExists key, false⟩] (.ok .released)
  | timedOut {d now : Nat} (bound : deadline = some d) (past : d ≤ now) :
      Rounds key poll deadline (finding key ++ [.clock now]) (.ok .timedOut)
  | woken {x : List Sight} {n : Nat} (pause : Pause poll deadline x n) :
      Rounds key poll deadline (finding key ++ x ++ [.nap n true]) (.error .cancelled)
  | again {x t : List Sight} {n : Nat} {r : Except LockError Ending}
      (pause : Pause poll deadline x n) (rest : Rounds key poll deadline t r) :
      Rounds key poll deadline (finding key ++ x ++ .nap n false :: t) r

variable {w w' : Wait} {x t : List Sight} {r : Except LockError Ending}

def Faces (w : Wait) (t : List Sight) (r : Except LockError Ending) : Prop :=
  match w.phase with
  | .start => ∃ start l, t = .clock start :: l ∧ Rounds w.key w.poll (deadline? start w.timeout) l r
  | .ready d _ => Rounds w.key w.poll d t r
  | .look d _ => Rounds w.key w.poll d (.token false :: t) r
  | .held d _ => Rounds w.key w.poll (some d) (finding w.key ++ t) r
  | .nap d _ n => ∀ x, Pause w.poll d x n → Rounds w.key w.poll d (finding w.key ++ x ++ t) r
  | .over result => t = [] ∧ r = result

lemma faces_of_shows (h : w.action.Shows x w') (rest : w'.Faces t r) : w.Faces (x ++ t) r := by
  obtain ⟨key, timeout, poll, phase, pending⟩ := w
  cases pending with
  | cons e es => cases h; exact rest
  | nil =>
    cases phase with
    | start =>
      cases h with | clock _ start => ?_
      refine ⟨start, t, rfl, ?_⟩
      unfold begun at rest
      split at rest <;> rename_i bound <;> rw [bound] <;> exact rest
    | ready d polls =>
      cases h with | token _ fired => ?_
      cases fired with
      | true =>
        obtain ⟨rfl, rfl⟩ := rest
        exact .fired
      | false => exact rest
    | look d polls =>
      cases h with | call _ _ isHeld => ?_
      cases isHeld with
      | true =>
        cases d with
        | none => exact rest [] .unbounded
        | some d => exact rest
      | false =>
        obtain ⟨rfl, rfl⟩ := rest
        exact .released
    | held d polls =>
      cases h with | clock _ now => ?_
      unfold compared at rest
      split at rest
      · rename_i past
        obtain ⟨rfl, rfl⟩ := rest
        exact .timedOut rfl past
      · rename_i early
        exact rest [.clock now] (.bounded (Nat.lt_of_not_le early))
    | nap d polls n =>
      cases h with | nap _ _ fired => ?_
      intro x pause
      cases fired with
      | true =>
        obtain ⟨rfl, rfl⟩ := rest
        exact .woken pause
      | false => exact .again pause rest
    | «over» result => cases h

lemma faces_of_traces (h : Traces action w t r) : w.Faces t r := by
  induction h with
  | @done w r h =>
    obtain ⟨key, timeout, poll, phase, pending⟩ := w
    cases pending with
    | cons e es => cases h
    | nil => cases phase <;> cases h; exact ⟨rfl, rfl⟩
  | step h _ ih => exact faces_of_shows h ih

lemma traces_of_pending (w : Wait) (h : Traces action { w with pending := [] } t r) :
    Traces action w t r := by
  obtain ⟨key, timeout, poll, phase, pending⟩ := w
  induction pending with
  | nil => exact h
  | cons e es ih => exact .log rfl (ih h)

section Rounds

variable {key : LockKey} {timeout poll n : Nat} {deadline : Option Nat} {polls : UInt32}

def inPhase (key : LockKey) (timeout poll : Nat) (phase : Phase) : Wait :=
  { key := key, timeout := timeout, poll := poll, phase := phase }

lemma traces_round (pause : Pause poll deadline x n)
    (h : Traces action (inPhase key timeout poll (.nap deadline (polls + 1) n)) t r) :
    Traces action (inPhase key timeout poll (.ready deadline polls)) (finding key ++ x ++ t) r := by
  rw [List.append_assoc]
  refine .token rfl (.call (c := .lockExists key) rfl true ?_)
  cases pause with
  | unbounded => exact traces_of_pending _ h
  | @bounded d now before =>
    refine .clock rfl (traces_of_pending _ ?_)
    simp only [goTo, compared, if_neg (Nat.not_le.2 before)]
    exact h

lemma Rounds.traces (h : Rounds key poll deadline t r) (timeout : Nat) (polls : UInt32) :
    Traces action (inPhase key timeout poll (.ready deadline polls)) t r := by
  induction h generalizing polls with
  | fired => exact .token rfl (.done rfl)
  | released =>
    exact .token rfl (.call (c := .lockExists key) rfl false (traces_of_pending _ (.done rfl)))
  | @timedOut d now bound past =>
    subst bound
    refine .token rfl (.call (c := .lockExists key) rfl true (.clock rfl (traces_of_pending _ ?_)))
    simp only [goTo, compared, if_pos past]
    exact .done rfl
  | woken pause => exact traces_round pause (.nap rfl (traces_of_pending _ (.done rfl)))
  | again pause rest ih => exact traces_round pause (.nap rfl (ih _))

lemma traces_iff_rounds :
    Traces action { key := key, timeout := timeout, poll := poll } t r ↔
      ∃ start l, t = .clock start :: l ∧ Rounds key poll (deadline? start timeout) l r := by
  constructor
  · exact fun h => faces_of_traces h
  · rintro ⟨start, l, rfl, rounds⟩
    refine .clock rfl (traces_of_pending _ ?_)
    unfold begun
    split <;> rename_i bound <;> exact (bound ▸ rounds).traces timeout 0

end Rounds

end LockRegistry.Wait
