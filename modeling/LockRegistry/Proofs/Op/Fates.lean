import LockRegistry.Proofs.Op.Rounds

/-! Fates: what is shown next depends only on what has been shown before. -/

namespace LockRegistry

lemma exists_shown {t : List Sight} {x : Exchange} (mem : x ∈ exchangesOf t) :
    ∃ u, u ++ [.asked x] <+: t := by
  obtain ⟨s, shown, same⟩ := List.mem_filterMap.1 mem
  obtain ⟨u, rest, rfl⟩ := List.append_of_mem shown
  cases s with
  | asked y =>
    cases same
    exact ⟨u, rest, by rw [List.append_assoc, List.singleton_append]⟩
  | _ => cases same

-- What there is to be seen next, given all that has been seen.
structure Fate where
  answer : List Sight → (c : Call) → c.Reply
  clock : List Sight → Nat
  fired : List Sight → Bool

namespace Fate

variable {σ α β : Type} {W : Fate} {s : Sight} {t u : List Sight}

def past (W : Fate) (s : Sight) : Fate where
  answer t := W.answer (s :: t)
  clock t := W.clock (s :: t)
  fired t := W.fired (s :: t)

def after (W : Fate) (t : List Sight) : Fate := t.foldl past W

def Shows (W : Fate) : Sight → Prop
  | .asked x => x.reply = W.answer [] x.call
  | .clock time => time = W.clock []
  | .token fired | .nap _ fired => fired = W.fired []

def Plays (W : Fate) : List Sight → Prop
  | [] => True
  | s :: t => W.Shows s ∧ (W.past s).Plays t

@[simp] lemma plays_nil : W.Plays [] := trivial

@[simp] lemma plays_cons : W.Plays (s :: t) ↔ W.Shows s ∧ (W.past s).Plays t := Iff.rfl

@[simp] lemma after_nil (W : Fate) : W.after [] = W := rfl

@[simp] lemma after_cons (W : Fate) (s : Sight) (t : List Sight) :
    W.after (s :: t) = (W.past s).after t := rfl

lemma answer_after (W : Fate) (t u : List Sight) : (W.after t).answer u = W.answer (t ++ u) := by
  induction t generalizing W with
  | nil => rfl
  | cons s t ih => exact ih (W.past s)

lemma plays_append : W.Plays (t ++ u) ↔ W.Plays t ∧ (W.after t).Plays u := by
  induction t generalizing W with
  | nil => simp
  | cons s t ih => simp [ih, and_assoc]

lemma Plays.reply (plays : W.Plays t) {x : Exchange} (shown : u ++ [.asked x] <+: t) :
    x.reply = W.answer u x.call := by
  obtain ⟨rest, rfl⟩ := shown
  obtain ⟨before, -⟩ := plays_append.1 plays
  have shows := (plays_append.1 before).2.1
  exact shows.trans (by rw [answer_after, List.append_nil])

structure Ends (W : Fate) (action : σ → Action σ α) (x : σ) (t : List Sight)
    (r : Except LockError α) : Prop where
  traces : Traces action x t r
  plays : W.Plays t

section Unique

variable {action : σ → Action σ α} {a : Action σ α} {x y y' : σ} {m m' : List Sight}
  {r r' : Except LockError α}

lemma shows_unique (h : a.Shows m y) (h' : a.Shows m' y') (plays : W.Plays m)
    (plays' : W.Plays m') : m = m' ∧ y = y' := by
  cases h with
  | log event => cases h'; exact ⟨rfl, rfl⟩
  | call c next answer =>
    cases h' with | call _ _ answer' => ?_
    obtain rfl : answer = answer' := plays.1.trans plays'.1.symm
    exact ⟨rfl, rfl⟩
  | clock next time =>
    cases h' with | clock _ time' => ?_
    obtain rfl : time = time' := plays.1.trans plays'.1.symm
    exact ⟨rfl, rfl⟩
  | token next fired =>
    cases h' with | token _ fired' => ?_
    obtain rfl : fired = fired' := plays.1.trans plays'.1.symm
    exact ⟨rfl, rfl⟩
  | nap length next fired =>
    cases h' with | nap _ _ fired' => ?_
    obtain rfl : fired = fired' := plays.1.trans plays'.1.symm
    exact ⟨rfl, rfl⟩

lemma Ends.unique (h : W.Ends action x t r) (h' : W.Ends action x u r') : t = u ∧ r = r' := by
  obtain ⟨traces, plays⟩ := h
  obtain ⟨traces', plays'⟩ := h'
  induction traces generalizing W u with
  | done ha =>
    cases traces' with
    | done ha' => exact ⟨rfl, Action.done.inj (ha.symm.trans ha')⟩
    | step shows => rw [ha] at shows; cases shows
  | step shows _ ih =>
    cases traces' with
    | done ha' => rw [ha'] at shows; cases shows
    | step shows' rest' =>
      obtain ⟨first, rest⟩ := plays_append.1 plays
      obtain ⟨first', rest''⟩ := plays_append.1 plays'
      obtain ⟨rfl, rfl⟩ := shows_unique shows shows' first first'
      obtain ⟨rfl, rfl⟩ := ih rest rest' rest''
      exact ⟨rfl, rfl⟩

end Unique

section Composition

variable {x : Op α} {k : α → Op β} {r : Except LockError β}

lemma Ends.bind {a : α} (h : W.Ends Op.action x t (.ok a))
    (rest : (W.after t).Ends Op.action (k a) u r) : W.Ends Op.action (x >>= k) (t ++ u) r :=
  ⟨Op.Sees.andThen h.traces rest.traces, plays_append.2 ⟨h.plays, rest.plays⟩⟩

lemma Ends.ask {c : Call} {a : c.Reply} {k : c.Reply → Op α} {r : Except LockError α}
    (answer : a = W.answer [] c) (h : (W.past (.asked ⟨c, a⟩)).Ends Op.action (k a) t r) :
    W.Ends Op.action (Op.ask c >>= k) (.asked ⟨c, a⟩ :: t) r :=
  ⟨Op.sees_ask_bind.2 ⟨a, t, rfl, h.traces⟩, answer, h.plays⟩

lemma Ends.now {time : Nat} {k : Nat → Op α} {r : Except LockError α}
    (clock : time = W.clock []) (h : (W.past (.clock time)).Ends Op.action (k time) t r) :
    W.Ends Op.action (Op.now >>= k) (.clock time :: t) r :=
  ⟨Op.sees_now_bind.2 ⟨time, t, rfl, h.traces⟩, clock, h.plays⟩

lemma Ends.emit {event : LogEvent} {k : Unit → Op α} {r : Except LockError α}
    (h : W.Ends Op.action (k ()) t r) : W.Ends Op.action (Op.emit event >>= k) t r :=
  ⟨Op.sees_emit_bind.2 h.traces, h.plays⟩

lemma Ends.await {key : LockKey} {timeout poll : Nat} {e : Wait.Ending} {k : Wait.Ending → Op α}
    {r : Except LockError α}
    (h : W.Ends Wait.action { key := key, timeout := timeout, poll := poll } t (.ok e))
    (rest : (W.after t).Ends Op.action (k e) u r) :
    W.Ends Op.action (Op.await key timeout poll >>= k) (t ++ u) r :=
  ⟨Op.sees_await_bind.2 (.inl ⟨e, t, u, rfl, h.traces, rest.traces⟩),
    plays_append.2 ⟨h.plays, rest.plays⟩⟩

end Composition

end Fate

lemma Op.Timeless.ends {α : Type} {x : Op α} (h : x.Timeless) (W : Fate) :
    ∃ t r, W.Ends action x t r := by
  induction h generalizing W with
  | done r => exact ⟨[], r, .done rfl, trivial⟩
  | log event _ ih =>
    obtain ⟨t, r, traces, plays⟩ := ih W
    exact ⟨t, r, sees_log.2 traces, plays⟩
  | @call c next _ ih =>
    obtain ⟨t, r, traces, plays⟩ := ih (.ok (W.answer [] c)) (W.past (.asked ⟨c, W.answer [] c⟩))
    exact ⟨_, r, sees_call.2 ⟨_, t, rfl, traces⟩, rfl, plays⟩

namespace Wait

variable {W : Fate} {key : LockKey} {poll timeout : Nat} {deadline : Option Nat}
  {t : List Sight} {r : Except LockError Ending}

lemma exists_pause (W : Fate) (poll : Nat) (deadline : Option Nat) :
    (∃ d, deadline = some d ∧ d ≤ W.clock []) ∨
      ∃ x n, Pause poll deadline x n ∧ W.Plays x := by
  cases deadline with
  | none => exact .inr ⟨[], poll, .unbounded, trivial⟩
  | some d =>
    by_cases past : d ≤ W.clock []
    · exact .inl ⟨d, rfl, past⟩
    · exact .inr ⟨_, _, .bounded (Nat.lt_of_not_le past), rfl, trivial⟩

-- The induction is on the naps that the fate is good for: each leaves it good for fewer.
lemma exists_rounds (key : LockKey) (poll : Nat) (deadline : Option Nat)
    (good : Nat → Fate → Prop)
    (nearer : ∀ m W x n, good m W → Pause poll deadline x n →
      W.Plays (finding key ++ x ++ [.nap n false]) →
        ∃ m' < m, good m' (W.after (finding key ++ x ++ [.nap n false])))
    (m : Nat) (W : Fate) (h : good m W) : ∃ t r, Rounds key poll deadline t r ∧ W.Plays t := by
  induction m using Nat.strongRecOn generalizing W with
  | ind m ih =>
    cases fired : W.fired [] with
    | true => exact ⟨_, _, .fired, fired.symm, trivial⟩
    | false =>
      cases held : (W.past (.token false)).answer [] (.lockExists key) with
      | false => exact ⟨_, _, .released, fired.symm, held.symm, trivial⟩
      | true =>
        have found : W.Plays (finding key) := ⟨fired.symm, held.symm, trivial⟩
        rcases exists_pause (W.after (finding key)) poll deadline with
          ⟨d, bound, past⟩ | ⟨x, n, pause, paused⟩
        · exact ⟨_, _, .timedOut bound past, Fate.plays_append.2 ⟨found, rfl, trivial⟩⟩
        · have begun : W.Plays (finding key ++ x) := Fate.plays_append.2 ⟨found, paused⟩
          cases woken : (W.after (finding key ++ x)).fired [] with
          | true =>
            exact ⟨_, _, .woken pause, Fate.plays_append.2 ⟨begun, woken.symm, trivial⟩⟩
          | false =>
            have round : W.Plays (finding key ++ x ++ [.nap n false]) :=
              Fate.plays_append.2 ⟨begun, woken.symm, trivial⟩
            obtain ⟨m', fewer, good'⟩ := nearer m W x n h pause round
            obtain ⟨t, r, rounds, plays⟩ := ih m' fewer _ good'
            refine ⟨_, r, .again pause rounds, ?_⟩
            rw [← List.singleton_append, ← List.append_assoc]
            exact Fate.plays_append.2 ⟨round, plays⟩

lemma ends_iff_rounds :
    W.Ends action { key := key, timeout := timeout, poll := poll } t r ↔
      ∃ l, t = .clock (W.clock []) :: l ∧ Rounds key poll (deadline? (W.clock []) timeout) l r ∧
        (W.past (.clock (W.clock []))).Plays l := by
  constructor
  · rintro ⟨traces, plays⟩
    obtain ⟨start, l, rfl, rounds⟩ := traces_iff_rounds.1 traces
    obtain ⟨rfl, rest⟩ := Fate.plays_cons.1 plays
    exact ⟨l, rfl, rounds, rest⟩
  · rintro ⟨l, rfl, rounds, plays⟩
    exact ⟨traces_iff_rounds.2 ⟨_, l, rfl, rounds⟩, rfl, plays⟩

end Wait

end LockRegistry
