import LockRegistry.Proofs.Sessions
import LockRegistry.Proofs.Store.Bare

namespace LockRegistry

variable {σ τ α β γ δ ι : Type}

inductive Action.Mirrors (S : σ → τ → Prop) (f : α → β) : Action σ α → Action τ β → Prop
  | ok (a : α) : Mirrors S f (.done (.ok a)) (.done (.ok (f a)))
  | error (e : LockError) : Mirrors S f (.done (.error e)) (.done (.error e))
  | log (event : LogEvent) {s : σ} {t : τ} (h : S s t) : Mirrors S f (.log event s) (.log event t)
  | call (c : Call) {next : Except DatabaseError c.Reply → σ}
      {next' : Except DatabaseError c.bare.Reply → τ}
      (h : ∀ a, S (next a) (next' (a.map c.bareReply))) :
      Mirrors S f (.call c next) (.call c.bare next')
  | clock {next : Nat → σ} {next' : Nat → τ} (h : ∀ time, S (next time) (next' time)) :
      Mirrors S f (.clock next) (.clock next')
  | token {next : Bool → σ} {next' : Bool → τ} (h : ∀ fired, S (next fired) (next' fired)) :
      Mirrors S f (.token next) (.token next')
  | nap (length : Nat) {next : Bool → σ} {next' : Bool → τ}
      (h : ∀ fired, S (next fired) (next' fired)) :
      Mirrors S f (.nap length next) (.nap length next')

inductive Op.Mirrors (f : α → β) : Op α → Op β → Prop
  | ok (a : α) : Mirrors f (done (.ok a)) (done (.ok (f a)))
  | error (e : LockError) : Mirrors f (done (.error e)) (done (.error e))
  | log (event : LogEvent) {x : Op α} {y : Op β} (h : Mirrors f x y) :
      Mirrors f (log event x) (log event y)
  | call (c : Call) {next : Except DatabaseError c.Reply → Op α}
      {next' : Except DatabaseError c.bare.Reply → Op β}
      (h : ∀ a, Mirrors f (next a) (next' (a.map c.bareReply))) :
      Mirrors f (call c next) (call c.bare next')
  | clock {next : Nat → Op α} {next' : Nat → Op β}
      (h : ∀ time, Mirrors f (next time) (next' time)) : Mirrors f (clock next) (clock next')
  | wait (w : Wait) {next : Except LockError Wait.Ending → Op α}
      {next' : Except LockError Wait.Ending → Op β}
      (h : ∀ e, Mirrors f (next e) (next' e)) : Mirrors f (wait w next) (wait w next')

namespace Op.Mirrors

variable {f : α → β} {g : γ → δ} {x : Op α} {y : Op β}

lemma bind {k : α → Op γ} {k' : β → Op δ} (h : Mirrors f x y)
    (hk : ∀ a, Mirrors g (k a) (k' (f a))) : Mirrors g (x >>= k) (y >>= k') := by
  change Mirrors g (x.bind k) (y.bind k')
  induction h with
  | ok a => exact hk a
  | error e => exact .error e
  | log event _ ih => exact .log event ih
  | call c _ ih => exact .call c ih
  | clock _ ih => exact .clock ih
  | wait w _ ih => exact .wait w ih

lemma map {p : α → γ} {q : β → δ} (h : Mirrors f x y) (same : ∀ a, q (f a) = g (p a)) :
    Mirrors g (p <$> x) (q <$> y) := by
  refine h.bind fun a => ?_
  change Mirrors g (done (.ok (p a))) (done (.ok (q (f a))))
  rw [same]
  exact .ok (p a)

lemma check (e : Except ArgumentError α) : Mirrors id (Op.check e) (Op.check e) := by
  cases e with
  | ok a => exact .ok a
  | error e => exact .error _

lemma ask (c : Call) : Mirrors c.bareReply (Op.ask c) (Op.ask c.bare) :=
  .call c fun r => by
    cases r with
    | ok a => exact .ok a
    | error e => exact .error _

lemma ask_bind (c : Call) {k : c.Reply → Op α} {k' : c.bare.Reply → Op β}
    (h : ∀ a, Mirrors f (k a) (k' (c.bareReply a))) :
    Mirrors f (Op.ask c >>= k) (Op.ask c.bare >>= k') :=
  (ask c).bind h

lemma await_bind (key : LockKey) (timeout poll : Nat) {k : Wait.Ending → Op α}
    {k' : Wait.Ending → Op β} (h : ∀ e, Mirrors f (k e) (k' e)) :
    Mirrors f (Op.await key timeout poll >>= k) (Op.await key timeout poll >>= k') :=
  .wait _ fun r => by
    cases r with
    | ok e => exact h e
    | error e => exact .error e

lemma action (h : Mirrors f x y) : x.action.Mirrors (Mirrors f) f y.action := by
  induction h with
  | ok a => exact .ok a
  | error e => exact .error e
  | log event h _ => exact .log event h
  | call c h _ => exact .call c h
  | clock h _ => exact .clock h
  | wait w h ih =>
    -- both wait in the same way, and differ in what they do when the wait is over
    obtain ⟨key, timeout, poll, phase, pending⟩ := w
    cases pending with
    | cons event rest => exact .log event (.wait _ h)
    | nil =>
      cases phase with
      | start => exact .clock fun _ => .wait _ h
      | ready => exact .token fun _ => .wait _ h
      | look => exact .call (.lockExists key) fun r => by cases r <;> exact .wait _ h
      | held => exact .clock fun _ => .wait _ h
      | nap => exact .nap _ fun _ => .wait _ h
      | «over» r => exact ih r

lemma result? (h : Mirrors f x y) : y.result? = x.result?.map (Except.map f) := by
  have act := h.action
  unfold Op.result?
  generalize x.action = a at act ⊢
  generalize y.action = b at act ⊢
  cases act <;> rfl

variable [Regex.Engine]

lemma step (h : Mirrors f x y) (s : Store) (t : Turn ι) :
    Mirrors f (x.step s t).1 (y.step s.bare t).1 ∧
      (y.step s.bare t).2 = (x.step s t).2.bare := by
  have act := h.action
  unfold Op.step
  generalize x.action = a at act ⊢
  generalize y.action = b at act ⊢
  cases act with
  | ok | error => exact ⟨h, rfl⟩
  | log event next => exact ⟨next, rfl⟩
  | call c next =>
    dsimp only
    rw [Store.apply_bare]
    exact ⟨next (.ok _), rfl⟩
  | clock next | token next | nap _ next => exact ⟨next _, rfl⟩

end Op.Mirrors

end LockRegistry
