import LockRegistry.Proofs.Op.Traces

namespace LockRegistry

variable {σ α β : Type}

namespace Action

inductive Leads : Action σ α → List Exchange → σ → Prop
  | log (event : LogEvent) (next : σ) : Leads (.log event next) [] next
  | call (c : Call) (next : Except DatabaseError c.Reply → σ) (a : c.Reply) :
      Leads (.call c next) [⟨c, a⟩] (next (.ok a))
  | clock (next : Nat → σ) (time : Nat) : Leads (.clock next) [] (next time)
  | token (next : Bool → σ) (fired : Bool) : Leads (.token next) [] (next fired)
  | nap (length : Nat) (next : Bool → σ) (fired : Bool) : Leads (.nap length next) [] (next fired)

lemma leads_iff {a : Action σ α} {l : List Exchange} {s : σ} :
    a.Leads l s ↔ ∃ t, a.Shows t s ∧ exchangesOf t = l := by
  constructor
  · intro h
    cases h with
    | log event => exact ⟨_, .log event s, rfl⟩
    | call c next a => exact ⟨_, .call c next a, rfl⟩
    | clock next time => exact ⟨_, .clock next time, rfl⟩
    | token next fired => exact ⟨_, .token next fired, rfl⟩
    | nap length next fired => exact ⟨_, .nap length next fired, rfl⟩
  · rintro ⟨t, h, rfl⟩
    cases h <;> constructor

end Action

inductive Runs (action : σ → Action σ α) : σ → List Exchange → Except LockError α → Prop
  | done {s r} (h : action s = .done r) : Runs action s [] r
  | step {s s' x l r} (h : (action s).Leads x s') (rest : Runs action s' l r) :
      Runs action s (x ++ l) r

lemma runs_iff {action : σ → Action σ α} {s : σ} {l : List Exchange} {r : Except LockError α} :
    Runs action s l r ↔ ∃ t, Traces action s t r ∧ exchangesOf t = l := by
  constructor
  · intro h
    induction h with
    | done h => exact ⟨[], .done h, rfl⟩
    | step h _ ih =>
      obtain ⟨x, shows, rfl⟩ := Action.leads_iff.1 h
      obtain ⟨t, traces, rfl⟩ := ih
      exact ⟨x ++ t, .step shows traces, List.filterMap_append⟩
  · rintro ⟨t, h, rfl⟩
    induction h with
    | done h => exact .done h
    | step h _ ih =>
      rw [exchangesOf, List.filterMap_append]
      exact .step (Action.leads_iff.2 ⟨_, h, rfl⟩) ih

lemma Runs.call {action : σ → Action σ α} {s : σ} {c : Call} {l : List Exchange}
    {r : Except LockError α} {next : Except DatabaseError c.Reply → σ}
    (h : action s = .call c next) (a : c.Reply) (rest : Runs action (next (.ok a)) l r) :
    Runs action s (⟨c, a⟩ :: l) r :=
  .step (x := [⟨c, a⟩]) (h ▸ .call c next a) rest

namespace Op

variable {x y : Op α} {l : List Exchange} {r : Except LockError α}

abbrev Makes (x : Op α) (l : List Exchange) (r : Except LockError α) : Prop := Runs action x l r

@[simp] lemma makes_done {r' : Except LockError α} : (done r').Makes l r ↔ l = [] ∧ r = r' := by
  constructor
  · intro h
    cases h with
    | done h => cases h; exact ⟨rfl, rfl⟩
    | step h => cases h
  · rintro ⟨rfl, rfl⟩
    exact .done rfl

@[simp] lemma makes_log {event : LogEvent} : (log event x).Makes l r ↔ x.Makes l r := by
  constructor
  · intro h
    cases h with
    | done h => cases h
    | step h rest => cases h; exact rest
  · exact fun rest => .step (s := log event x) (x := []) (.log event x) rest

@[simp] lemma makes_call {c : Call} {next : Except DatabaseError c.Reply → Op α} :
    (call c next).Makes l r ↔ ∃ a l', l = ⟨c, a⟩ :: l' ∧ (next (.ok a)).Makes l' r := by
  constructor
  · intro h
    cases h with
    | done h => cases h
    | step h rest => cases h with | call _ _ a => exact ⟨a, _, rfl, rest⟩
  · rintro ⟨a, l', rfl, rest⟩
    exact .step (s := call c next) (.call c next a) rest

@[simp] lemma makes_clock {next : Nat → Op α} :
    (clock next).Makes l r ↔ ∃ t, (next t).Makes l r := by
  constructor
  · intro h
    cases h with
    | done h => cases h
    | step h rest => cases h with | clock _ t => exact ⟨t, rest⟩
  · rintro ⟨t, rest⟩
    exact .step (s := clock next) (.clock next t) rest

lemma makes_wait {w : Wait} {next : Except LockError Wait.Ending → Op α} :
    (wait w next).Makes l r ↔
      ∃ e l₁ l₂, l = l₁ ++ l₂ ∧ Runs Wait.action w l₁ e ∧ (next e).Makes l₂ r := by
  constructor
  · intro h
    obtain ⟨t, sees, rfl⟩ := runs_iff.1 h
    obtain ⟨e, t₁, t₂, rfl, hw, hn⟩ := sees_wait.1 sees
    exact ⟨e, _, _, List.filterMap_append, runs_iff.2 ⟨t₁, hw, rfl⟩, runs_iff.2 ⟨t₂, hn, rfl⟩⟩
  · rintro ⟨e, l₁, l₂, rfl, hw, hn⟩
    obtain ⟨t₁, ht₁, rfl⟩ := runs_iff.1 hw
    obtain ⟨t₂, ht₂, rfl⟩ := runs_iff.1 hn
    exact runs_iff.2 ⟨t₁ ++ t₂, sees_wait.2 ⟨e, t₁, t₂, rfl, ht₁, ht₂⟩, List.filterMap_append⟩

lemma Makes.bind {k : α → Op β} {r : Except LockError β} (h : (x >>= k).Makes l r) :
    (∃ a l₁ l₂, l = l₁ ++ l₂ ∧ x.Makes l₁ (.ok a) ∧ (k a).Makes l₂ r) ∨
      ∃ e, r = .error e ∧ x.Makes l (.error e) := by
  obtain ⟨t, sees, rfl⟩ := runs_iff.1 h
  rcases Sees.bind sees with ⟨a, t₁, t₂, rfl, hx, hk⟩ | ⟨e, rfl, hx⟩
  · exact .inl ⟨a, _, _, List.filterMap_append, runs_iff.2 ⟨t₁, hx, rfl⟩,
      runs_iff.2 ⟨t₂, hk, rfl⟩⟩
  · exact .inr ⟨e, rfl, runs_iff.2 ⟨t, hx, rfl⟩⟩

lemma makes_pure {a : α} : (pure a : Op α).Makes l r ↔ l = [] ∧ r = .ok a := makes_done

lemma makes_fail {e : LockError} : (fail e : Op α).Makes l r ↔ l = [] ∧ r = .error e := makes_done

lemma makes_emit {event : LogEvent} {l : List Exchange} {r : Except LockError Unit} :
    (emit event).Makes l r ↔ l = [] ∧ r = .ok () := by
  simp [emit]

lemma makes_ask {c : Call} {l : List Exchange} {r : Except LockError c.Reply} :
    (ask c).Makes l r ↔ ∃ a, l = [⟨c, a⟩] ∧ r = .ok a := by
  rw [ask, makes_call]
  constructor
  · rintro ⟨a, _, rfl, h⟩
    obtain ⟨rfl, rfl⟩ := makes_done.1 h
    exact ⟨a, rfl, rfl⟩
  · rintro ⟨a, rfl, rfl⟩
    exact ⟨a, [], rfl, makes_done.2 ⟨rfl, rfl⟩⟩

lemma makes_ask_bind {c : Call} {k : c.Reply → Op α} :
    (ask c >>= k).Makes l r ↔ ∃ a l', l = ⟨c, a⟩ :: l' ∧ (k a).Makes l' r :=
  makes_call

lemma makes_emit_bind {event : LogEvent} {k : Unit → Op α} :
    (emit event >>= k).Makes l r ↔ (k ()).Makes l r :=
  (makes_log : (log event (k ())).Makes l r ↔ _)

lemma makes_now_bind {k : Nat → Op α} : (now >>= k).Makes l r ↔ ∃ t, (k t).Makes l r :=
  (makes_clock : (clock k).Makes l r ↔ _)

lemma check_ok_bind (b : β) (k : β → Op α) : check (.ok b) >>= k = k b := rfl

lemma makes_check_bind {e : Except ArgumentError β} {k : β → Op α} :
    (check e >>= k).Makes l r ↔
      (∃ b, e = .ok b ∧ (k b).Makes l r) ∨
        ∃ err, e = .error err ∧ l = [] ∧ r = .error (.argument err) := by
  cases e with
  | ok b => simp [check, Bind.bind, Op.bind]
  | error err => simp [check, Bind.bind, Op.bind]

end Op

end LockRegistry
