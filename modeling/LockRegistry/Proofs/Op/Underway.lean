import LockRegistry.Proofs.Op.Traces

namespace LockRegistry

variable {σ α β : Type}

inductive Comes (action : σ → Action σ α) (s : σ) : List Sight → σ → Prop
  | start : Comes action s [] s
  | step {t x : List Sight} {s' s'' : σ} (h : Comes action s t s')
      (shows : (action s').Shows x s'') : Comes action s (t ++ x) s''

namespace Comes

variable {action : σ → Action σ α} {s s' s'' : σ} {t u x : List Sight} {r : Except LockError α}

lemma of_shows (shows : (action s).Shows x s') : Comes action s x s' := start.step shows

lemma trans (h : Comes action s t s') (h' : Comes action s' u s'') :
    Comes action s (t ++ u) s'' := by
  induction h' with
  | start => rwa [List.append_nil]
  | step _ shows ih =>
    rw [← List.append_assoc]
    exact ih.step shows

lemma head (shows : (action s).Shows x s') (rest : Comes action s' t s'') :
    Comes action s (x ++ t) s'' :=
  (of_shows shows).trans rest

section Steps

variable {next : Bool → σ}

lemma log {event : LogEvent} {next : σ} (h : action s = .log event next)
    (rest : Comes action next t s') : Comes action s t s' :=
  head (x := []) (h ▸ .log event next) rest

lemma call {c : Call} {next : Except DatabaseError c.Reply → σ} (h : action s = .call c next)
    (a : c.Reply) (rest : Comes action (next (.ok a)) t s') :
    Comes action s (.asked ⟨c, a⟩ :: t) s' :=
  head (x := [.asked ⟨c, a⟩]) (.of_call h a) rest

lemma clock {next : Nat → σ} (h : action s = .clock next) {time : Nat}
    (rest : Comes action (next time) t s') : Comes action s (.clock time :: t) s' :=
  head (x := [.clock time]) (h ▸ .clock next time) rest

lemma token (h : action s = .token next) {fired : Bool}
    (rest : Comes action (next fired) t s') : Comes action s (.token fired :: t) s' :=
  head (x := [.token fired]) (h ▸ .token next fired) rest

lemma nap {length : Nat} (h : action s = .nap length next) {fired : Bool}
    (rest : Comes action (next fired) t s') : Comes action s (.nap length fired :: t) s' :=
  head (x := [.nap length fired]) (h ▸ .nap length next fired) rest

end Steps

lemma preserves {P : List Sight → σ → Prop}
    (step : ∀ {t x s s'}, (action s).Shows x s' → P t s → P (t ++ x) s')
    (h : Comes action s u s') (first : P t s) : P (t ++ u) s' := by
  induction h with
  | start => rwa [List.append_nil]
  | step _ shows ih =>
    rw [← List.append_assoc]
    exact step shows ih

lemma traces (h : Comes action s t s') (rest : Traces action s' u r) :
    Traces action s (t ++ u) r := by
  induction h generalizing u with
  | start => exact rest
  | step _ shows ih =>
    rw [List.append_assoc]
    exact ih (.step shows rest)

lemma ended (h : Comes action s t s') (final : action s' = .done r) : Traces action s t r := by
  rw [← List.append_nil t]
  exact h.traces (.done final)

lemma cases_head (h : Comes action s t s') :
    (t = [] ∧ s' = s) ∨
      ∃ x s₁ u, (action s).Shows x s₁ ∧ t = x ++ u ∧ Comes action s₁ u s' := by
  induction h with
  | start => exact .inl ⟨rfl, rfl⟩
  | @step t x _ s'' _ shows ih =>
    rcases ih with ⟨rfl, rfl⟩ | ⟨y, s₁, u, first, rfl, rest⟩
    · exact .inr ⟨x, s'', [], shows, (List.append_nil x).symm, .start⟩
    · exact .inr ⟨y, s₁, u ++ x, first, List.append_assoc .., rest.step shows⟩

end Comes

namespace Op

variable {x y : Op α} {k : α → Op β} {z : Op β} {t : List Sight}

lemma action_bind (x : Op α) (k : α → Op β) :
    (x >>= k).action = x.action.andThen (· >>= k) fun r => (done r >>= k).action := by
  induction x with
  | done result => rfl
  | log event next ih => rfl
  | call c next ih => rfl
  | clock next ih => rfl
  | wait w next ih =>
    -- only where the wait is over is it the ending that decides the step
    change w.action.andThen _ (fun r => (next r >>= k).action) = (w.action.andThen _ _).andThen _ _
    cases w.action with
    | done result => exact ih result
    | _ => rfl

lemma comes_bind (h : Comes action (x >>= k) t z) :
    (∃ x', Comes action x t x' ∧ z = x' >>= k) ∨
      ∃ a t₁ t₂, t = t₁ ++ t₂ ∧ x.Sees t₁ (.ok a) ∧ Comes action (k a) t₂ z := by
  induction h with
  | start => exact .inl ⟨x, .start, rfl⟩
  | @step t u _ _ _ shows ih =>
    rcases ih with ⟨x', comes, rfl⟩ | ⟨a, t₁, t₂, rfl, sees, comes⟩
    · rw [action_bind] at shows
      rcases Action.shows_andThen shows with ⟨x'', within, rfl⟩ | ⟨r, final, after⟩
      · exact .inl ⟨x'', comes.step within, rfl⟩
      · cases r with
        | ok a => exact .inr ⟨a, t, u, rfl, comes.ended final, .of_shows after⟩
        | error e => cases after
    · exact .inr ⟨a, t₁, t₂ ++ u, List.append_assoc .., sees, comes.step shows⟩

lemma comes_ask_bind {c : Call} {k : c.Reply → Op α} (a : c.Reply) (h : Comes action (k a) t y) :
    Comes action (ask c >>= k) (.asked ⟨c, a⟩ :: t) y :=
  .call rfl a h

lemma comes_waiting {w w' : Wait} (k : Except LockError Wait.Ending → Op α)
    (h : Comes Wait.action w t w') : Comes action (wait w k) t (wait w' k) := by
  induction h with
  | start => exact .start
  | step _ shows ih => exact ih.step shows.andThen

lemma comes_wait {w : Wait} {k : Except LockError Wait.Ending → Op α}
    (h : Comes action (wait w k) t y) :
    (∃ w', Comes Wait.action w t w' ∧ y = wait w' k) ∨
      ∃ e t₁ t₂, t = t₁ ++ t₂ ∧ Traces Wait.action w t₁ e ∧ Comes action (k e) t₂ y := by
  induction h with
  | start => exact .inl ⟨w, .start, rfl⟩
  | @step t u _ _ _ shows ih =>
    rcases ih with ⟨w', comes, rfl⟩ | ⟨e, t₁, t₂, rfl, traces, comes⟩
    · rcases Action.shows_andThen shows with ⟨w'', within, rfl⟩ | ⟨e, final, after⟩
      · exact .inl ⟨w'', comes.step within, rfl⟩
      · exact .inr ⟨e, t, u, rfl, comes.ended final, .of_shows after⟩
    · exact .inr ⟨e, t₁, t₂ ++ u, List.append_assoc .., traces, comes.step shows⟩

section Waiting

variable {w : Wait} {next : Except LockError Wait.Ending → Op α}

lemma Timeless.comes (h : x.Timeless) (comes : Comes action x t y) : y.Timeless := by
  induction comes with
  | start => exact h
  | step _ shows ih =>
    cases ih with
    | done r => cases shows
    | log event timeless =>
      cases shows
      exact timeless
    | call timeless =>
      cases shows
      exact timeless _

lemma Timeless.comes_of_sees {a : α} (k : α → Op β) (h : x.Timeless) (sees : x.Sees t (.ok a)) :
    Comes action (x >>= k) t (k a) := by
  induction h generalizing t with
  | done r =>
    obtain ⟨rfl, rfl⟩ := sees_done.1 sees
    exact .start
  | log event _ ih => exact .log rfl (ih (sees_log.1 sees))
  | call _ ih =>
    obtain ⟨b, t', rfl, rest⟩ := sees_call.1 sees
    exact .call rfl b (ih (.ok b) rest)

lemma Timeless.not_comes_wait (h : x.Timeless) : ¬ Comes action x t (wait w next) :=
  fun comes => by cases h.comes comes

lemma Timeless.comes_bind_wait {next : Except LockError Wait.Ending → Op β} (h : x.Timeless)
    (comes : Comes action (x >>= k) t (wait w next)) :
    ∃ a t₁ t₂, t = t₁ ++ t₂ ∧ x.Sees t₁ (.ok a) ∧ Comes action (k a) t₂ (wait w next) := by
  rcases comes_bind comes with ⟨x', first, same⟩ | later
  · cases h.comes first with
    | done r =>
      cases r with
      | ok a =>
        refine ⟨a, t, [], (List.append_nil t).symm, first.ended rfl, ?_⟩
        rw [show wait w next = k a from same]
        exact .start
      | error e => cases same
    | log event => cases same
    | call => cases same
  · exact later

lemma comes_check_bind_wait {e : Except ArgumentError β} {k : β → Op α}
    (comes : Comes action (check e >>= k) t (wait w next)) :
    ∃ b, e = .ok b ∧ Comes action (k b) t (wait w next) := by
  cases e with
  | ok b => exact ⟨b, rfl, comes⟩
  | error e => exact absurd comes (Timeless.done _).not_comes_wait

lemma comes_now_bind_wait {k : Nat → Op α} (comes : Comes action (now >>= k) t (wait w next)) :
    ∃ time u, t = .clock time :: u ∧ Comes action (k time) u (wait w next) := by
  rcases comes.cases_head with ⟨-, same⟩ | ⟨x, y, u, shows, rfl, rest⟩
  · cases same
  · cases shows with | clock _ time => exact ⟨time, u, rfl, rest⟩

end Waiting

end Op

end LockRegistry
