import LockRegistry.Op
import Mathlib.Tactic.Lemma

/-! What an operation is shown in the course of a run, by a world that may show anything. -/

namespace LockRegistry

structure Exchange where
  call : Call
  reply : call.Reply

inductive Sight where
  | asked (x : Exchange)
  | clock (time : Nat)
  | token (fired : Bool)
  | nap (length : Nat) (fired : Bool)

namespace Sight

def exchange? : Sight → Option Exchange
  | asked x => some x
  | _ => none

def time? : Sight → Option Nat
  | clock time => some time
  | _ => none

end Sight

def exchangesOf (t : List Sight) : List Exchange := t.filterMap Sight.exchange?

def readings (t : List Sight) : List Nat := t.filterMap Sight.time?

lemma readings_append (t u : List Sight) : readings (t ++ u) = readings t ++ readings u :=
  List.filterMap_append

lemma readings_of_asked {t : List Sight} (h : ∀ s ∈ t, ∃ x, s = .asked x) : readings t = [] :=
  List.filterMap_eq_nil_iff.2 fun s hs => by
    obtain ⟨x, rfl⟩ := h s hs
    rfl

variable {σ τ α β : Type}

namespace Action

inductive Shows : Action σ α → List Sight → σ → Prop
  | log (event : LogEvent) (next : σ) : Shows (.log event next) [] next
  | call (c : Call) (next : Except DatabaseError c.Reply → σ) (a : c.Reply) :
      Shows (.call c next) [.asked ⟨c, a⟩] (next (.ok a))
  | clock (next : Nat → σ) (time : Nat) : Shows (.clock next) [.clock time] (next time)
  | token (next : Bool → σ) (fired : Bool) : Shows (.token next) [.token fired] (next fired)
  | nap (length : Nat) (next : Bool → σ) (fired : Bool) :
      Shows (.nap length next) [.nap length fired] (next fired)

lemma Shows.of_call {a : Action σ α} {c : Call} {next : Except DatabaseError c.Reply → σ}
    (h : a = .call c next) (reply : c.Reply) : a.Shows [.asked ⟨c, reply⟩] (next (.ok reply)) :=
  h ▸ .call c next reply

lemma Shows.andThen {a : Action σ α} {f : σ → τ} {k : Except LockError α → Action τ β}
    {x : List Sight} {s : σ} (h : a.Shows x s) : (a.andThen f k).Shows x (f s) := by
  cases h <;> constructor

lemma shows_andThen {a : Action σ α} {f : σ → τ} {k : Except LockError α → Action τ β}
    {x : List Sight} {t : τ} (h : (a.andThen f k).Shows x t) :
    (∃ s, a.Shows x s ∧ t = f s) ∨ ∃ v, a = .done v ∧ (k v).Shows x t := by
  cases a with
  | done v => exact .inr ⟨v, rfl, h⟩
  | log event next => cases h; exact .inl ⟨_, .log event next, rfl⟩
  | call c next => cases h with | call _ _ a => exact .inl ⟨_, .call c next a, rfl⟩
  | clock next => cases h with | clock _ t => exact .inl ⟨_, .clock next t, rfl⟩
  | token next => cases h with | token _ b => exact .inl ⟨_, .token next b, rfl⟩
  | nap length next => cases h with | nap _ _ b => exact .inl ⟨_, .nap length next b, rfl⟩

lemma andThen_eq_done {a : Action σ α} {f : σ → τ} {k : Except LockError α → Action τ β}
    {r : Except LockError β} (h : a.andThen f k = .done r) : ∃ v, a = .done v ∧ k v = .done r := by
  cases a with
  | done v => exact ⟨v, rfl, h⟩
  | _ => cases h

end Action

-- A process is shown this, in this order, and ends with this result.
inductive Traces (action : σ → Action σ α) : σ → List Sight → Except LockError α → Prop
  | done {s r} (h : action s = .done r) : Traces action s [] r
  | step {s s' x t r} (h : (action s).Shows x s') (rest : Traces action s' t r) :
      Traces action s (x ++ t) r

namespace Traces

variable {action : σ → Action σ α} {s : σ} {t : List Sight} {r : Except LockError α}
  {next : Bool → σ}

lemma log {event : LogEvent} {next : σ} (h : action s = .log event next)
    (rest : Traces action next t r) : Traces action s t r :=
  .step (x := []) (h ▸ .log event next) rest

lemma call {c : Call} {next : Except DatabaseError c.Reply → σ} (h : action s = .call c next)
    (a : c.Reply) (rest : Traces action (next (.ok a)) t r) :
    Traces action s (.asked ⟨c, a⟩ :: t) r :=
  .step (x := [.asked ⟨c, a⟩]) (.of_call h a) rest

lemma clock {next : Nat → σ} (h : action s = .clock next) {time : Nat}
    (rest : Traces action (next time) t r) : Traces action s (.clock time :: t) r :=
  .step (x := [.clock time]) (h ▸ .clock next time) rest

lemma token (h : action s = .token next) {fired : Bool}
    (rest : Traces action (next fired) t r) : Traces action s (.token fired :: t) r :=
  .step (x := [.token fired]) (h ▸ .token next fired) rest

lemma nap {length : Nat} (h : action s = .nap length next) {fired : Bool}
    (rest : Traces action (next fired) t r) : Traces action s (.nap length fired :: t) r :=
  .step (x := [.nap length fired]) (h ▸ .nap length next fired) rest

end Traces

namespace Op

variable {x y : Op α} {t : List Sight} {r : Except LockError α}

abbrev Sees (x : Op α) (t : List Sight) (r : Except LockError α) : Prop := Traces action x t r

lemma Sees.of_action (h : x.Sees t r) (same : x.action = y.action) : y.Sees t r := by
  cases h with
  | done h => exact .done (same ▸ h)
  | step h rest => exact .step (same ▸ h) rest

@[simp] lemma sees_done {r' : Except LockError α} : (done r').Sees t r ↔ t = [] ∧ r = r' := by
  constructor
  · intro h
    cases h with
    | done h => cases h; exact ⟨rfl, rfl⟩
    | step h => cases h
  · rintro ⟨rfl, rfl⟩
    exact .done rfl

@[simp] lemma sees_log {event : LogEvent} : (log event x).Sees t r ↔ x.Sees t r := by
  constructor
  · intro h
    cases h with
    | done h => cases h
    | step h rest => cases h; exact rest
  · exact .log rfl

@[simp] lemma sees_call {c : Call} {next : Except DatabaseError c.Reply → Op α} :
    (call c next).Sees t r ↔ ∃ a t', t = .asked ⟨c, a⟩ :: t' ∧ (next (.ok a)).Sees t' r := by
  constructor
  · intro h
    cases h with
    | done h => cases h
    | step h rest => cases h with | call _ _ a => exact ⟨a, _, rfl, rest⟩
  · rintro ⟨a, t', rfl, rest⟩
    exact .call rfl a rest

@[simp] lemma sees_clock {next : Nat → Op α} :
    (clock next).Sees t r ↔ ∃ time t', t = .clock time :: t' ∧ (next time).Sees t' r := by
  constructor
  · intro h
    cases h with
    | done h => cases h
    | step h rest => cases h with | clock _ time => exact ⟨time, _, rfl, rest⟩
  · rintro ⟨time, t', rfl, rest⟩
    exact .clock rfl rest

lemma sees_wait {w : Wait} {next : Except LockError Wait.Ending → Op α} :
    (wait w next).Sees t r ↔
      ∃ e t₁ t₂, t = t₁ ++ t₂ ∧ Traces Wait.action w t₁ e ∧ (next e).Sees t₂ r := by
  constructor
  · intro h
    generalize hop : Op.wait w next = op at h
    induction h generalizing w with
    | done h =>
      subst hop
      obtain ⟨e, hw, hn⟩ := Action.andThen_eq_done h
      exact ⟨e, [], [], rfl, .done hw, .done hn⟩
    | @step _ _ y u _ h rest ih =>
      subst hop
      rcases Action.shows_andThen h with ⟨w', hw, rfl⟩ | ⟨e, hw, hn⟩
      · obtain ⟨e, t₁, t₂, rfl, hr, hn⟩ := ih rfl
        exact ⟨e, y ++ t₁, t₂, (List.append_assoc ..).symm, .step hw hr, hn⟩
      · exact ⟨e, [], y ++ u, rfl, .done hw, .step hn rest⟩
  · rintro ⟨e, t₁, t₂, rfl, hw, hn⟩
    induction hw with
    | done h => exact hn.of_action (by simp only [action, h, Action.andThen])
    | step h _ ih =>
      rw [List.append_assoc]
      exact .step (Action.Shows.andThen h) (ih hn)

lemma Sees.bind {k : α → Op β} {r : Except LockError β} (h : (x >>= k).Sees t r) :
    (∃ a t₁ t₂, t = t₁ ++ t₂ ∧ x.Sees t₁ (.ok a) ∧ (k a).Sees t₂ r) ∨
      ∃ e, r = .error e ∧ x.Sees t (.error e) := by
  change (x.bind k).Sees t r at h
  induction x generalizing t with
  | done r' =>
    cases r' with
    | ok a => exact .inl ⟨a, [], t, rfl, .done rfl, h⟩
    | error e =>
      obtain ⟨rfl, rfl⟩ := sees_done.1 h
      exact .inr ⟨e, rfl, .done rfl⟩
  | log event next ih =>
    rcases ih (sees_log.1 h) with ⟨a, t₁, t₂, rfl, hx, hk⟩ | ⟨e, rfl, hx⟩
    · exact .inl ⟨a, t₁, t₂, rfl, sees_log.2 hx, hk⟩
    · exact .inr ⟨e, rfl, sees_log.2 hx⟩
  | call c next ih =>
    obtain ⟨b, t', rfl, hn⟩ := sees_call.1 h
    rcases ih (.ok b) hn with ⟨a, t₁, t₂, rfl, hx, hk⟩ | ⟨e, rfl, hx⟩
    · exact .inl ⟨a, .asked ⟨c, b⟩ :: t₁, t₂, rfl, sees_call.2 ⟨b, t₁, rfl, hx⟩, hk⟩
    · exact .inr ⟨e, rfl, sees_call.2 ⟨b, t', rfl, hx⟩⟩
  | clock next ih =>
    obtain ⟨time, t', rfl, hn⟩ := sees_clock.1 h
    rcases ih time hn with ⟨a, t₁, t₂, rfl, hx, hk⟩ | ⟨e, rfl, hx⟩
    · exact .inl ⟨a, .clock time :: t₁, t₂, rfl, sees_clock.2 ⟨time, t₁, rfl, hx⟩, hk⟩
    · exact .inr ⟨e, rfl, sees_clock.2 ⟨time, t', rfl, hx⟩⟩
  | wait w next ih =>
    obtain ⟨e, t₁, t₂, rfl, hw, hn⟩ := sees_wait.1 h
    rcases ih e hn with ⟨a, t₃, t₄, rfl, hx, hk⟩ | ⟨e', rfl, hx⟩
    · exact .inl ⟨a, t₁ ++ t₃, t₄, (List.append_assoc ..).symm,
        sees_wait.2 ⟨e, t₁, t₃, rfl, hw, hx⟩, hk⟩
    · exact .inr ⟨e', rfl, sees_wait.2 ⟨e, t₁, t₂, rfl, hw, hx⟩⟩

lemma Sees.andThen {k : α → Op β} {a : α} {u : List Sight} {r : Except LockError β}
    (h : x.Sees t (.ok a)) (hk : (k a).Sees u r) : (x >>= k).Sees (t ++ u) r := by
  change (x.bind k).Sees (t ++ u) r
  induction x generalizing t with
  | done r' =>
    obtain ⟨rfl, rfl⟩ := sees_done.1 h
    exact hk
  | log event next ih => exact sees_log.2 (ih (sees_log.1 h))
  | call c next ih =>
    obtain ⟨b, t', rfl, hn⟩ := sees_call.1 h
    exact sees_call.2 ⟨b, _, rfl, ih (.ok b) hn⟩
  | clock next ih =>
    obtain ⟨time, t', rfl, hn⟩ := sees_clock.1 h
    exact sees_clock.2 ⟨time, _, rfl, ih time hn⟩
  | wait w next ih =>
    obtain ⟨e, t₁, t₂, rfl, hw, hn⟩ := sees_wait.1 h
    exact sees_wait.2 ⟨e, t₁, t₂ ++ u, List.append_assoc .., hw, ih e hn⟩

lemma sees_ask_bind {c : Call} {k : c.Reply → Op α} :
    (ask c >>= k).Sees t r ↔ ∃ a t', t = .asked ⟨c, a⟩ :: t' ∧ (k a).Sees t' r :=
  sees_call

lemma sees_emit_bind {event : LogEvent} {k : Unit → Op α} :
    (emit event >>= k).Sees t r ↔ (k ()).Sees t r :=
  (sees_log : (log event (k ())).Sees t r ↔ _)

lemma sees_now_bind {k : Nat → Op α} :
    (now >>= k).Sees t r ↔ ∃ time t', t = .clock time :: t' ∧ (k time).Sees t' r :=
  (sees_clock : (clock k).Sees t r ↔ _)

lemma sees_await_bind {key : LockKey} {timeout poll : Nat} {k : Wait.Ending → Op α} :
    (await key timeout poll >>= k).Sees t r ↔
      (∃ e t₁ t₂, t = t₁ ++ t₂ ∧
        Traces Wait.action { key := key, timeout := timeout, poll := poll } t₁ (.ok e) ∧
          (k e).Sees t₂ r) ∨
        ∃ e, r = .error e ∧
          Traces Wait.action { key := key, timeout := timeout, poll := poll } t (.error e) := by
  refine sees_wait.trans ⟨?_, ?_⟩
  · rintro ⟨e, t₁, t₂, rfl, hw, hn⟩
    cases e with
    | ok e => exact .inl ⟨e, t₁, t₂, rfl, hw, hn⟩
    | error e =>
      obtain ⟨rfl, rfl⟩ := sees_done.1 hn
      exact .inr ⟨e, rfl, (List.append_nil t₁).symm ▸ hw⟩
  · rintro (⟨e, t₁, t₂, rfl, hw, hn⟩ | ⟨e, rfl, hw⟩)
    · exact ⟨.ok e, t₁, t₂, rfl, hw, hn⟩
    · exact ⟨.error e, t, [], (List.append_nil t).symm, hw, .done rfl⟩

lemma sees_check_bind {e : Except ArgumentError β} {k : β → Op α} :
    (check e >>= k).Sees t r ↔
      (∃ b, e = .ok b ∧ (k b).Sees t r) ∨
        ∃ err, e = .error err ∧ t = [] ∧ r = .error (.argument err) := by
  cases e with
  | ok b => simp [check, Bind.bind, Op.bind]
  | error err => simp [check, Bind.bind, Op.bind]

inductive Timeless : Op α → Prop
  | done (r : Except LockError α) : Timeless (done r)
  | log (event : LogEvent) {next : Op α} (h : Timeless next) : Timeless (log event next)
  | call {c : Call} {next : Except DatabaseError c.Reply → Op α} (h : ∀ a, Timeless (next a)) :
      Timeless (call c next)

lemma Timeless.bind {k : α → Op β} (h : x.Timeless) (hk : ∀ a, (k a).Timeless) :
    (x >>= k).Timeless := by
  change (x.bind k).Timeless
  induction h with
  | done r' =>
    cases r' with
    | ok a => exact hk a
    | error e => exact .done _
  | log event _ ih => exact .log event ih
  | call _ ih => exact .call ih

lemma timeless_ask (c : Call) : (ask c).Timeless := .call fun _ => .done _

lemma timeless_check (e : Except ArgumentError α) : (check e).Timeless := by
  cases e <;> exact .done _

lemma Timeless.asked (h : x.Timeless) (sees : x.Sees t r) : ∀ s ∈ t, ∃ e, s = .asked e := by
  induction h generalizing t with
  | done r' =>
    obtain ⟨rfl, -⟩ := sees_done.1 sees
    exact List.forall_mem_nil _
  | log event _ ih => exact ih (sees_log.1 sees)
  | call _ ih =>
    obtain ⟨a, t', rfl, rest⟩ := sees_call.1 sees
    exact List.forall_mem_cons.2 ⟨⟨_, rfl⟩, ih (.ok a) rest⟩

end Op

end LockRegistry
