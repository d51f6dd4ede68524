import LockRegistry.Proofs.Op.Numbered
import LockRegistry.Scenario.Process

/-! The processes of a scenario are sessions that share its store, and what hooks do is done by one
more. The ids that the world draws for locks are those that the operation has from the start. -/

namespace LockRegistry.Scenario

variable {β : Type}

structure Play (β : Type) where
  cast : Nat → Option (Task β)
  Intrudes : Call → Prop

def Play.numbers (P : Play β) (i : Nat) : Bool := (P.cast i).any (·.numbers)

def Task.settle (task : Task β) : Except LockError β → β
  | .ok b => b
  | .error e => task.failed e

def HookAction.Makes : HookAction → Call → Prop
  | .delete key, c => c = .deleteLock key
  | .insert key session, c => ∃ lockId, c = .insertLock ⟨lockId, key, session⟩
  | .cancel, _ | .fail _, _ => False

-- Sessions have no part for a store that fails.
structure HookAction.Within (P : Play β) (a : HookAction) : Prop where
  unfailing : ∀ cause, a ≠ .fail cause
  intrudes : ∀ c, a.Makes c → P.Intrudes c

namespace Process

def Status.Remains (task : Task β) (x : Op β) : Status β → Prop
  | .running op => op = x
  | .napping _ next => ∃ length, x.action = .nap length next
  | .finished b => ∃ r, x.result? = some r ∧ b = task.settle r

structure Stands (p : Process β) (P : Play β) (task : Task β) (x : Op β) : Prop where
  failed : p.failed = task.failed
  numbers : p.numbers = task.numbers
  hooks : ∀ hook ∈ p.hooks, ∀ a ∈ hook.actions, a.Within P
  remains : Status.Remains task x p.status

variable {P : Play β} {p q : Process β} {task : Task β} {x y : Op β}

lemma Stands.of_status (h : p.Stands P task x) (failed : q.failed = p.failed)
    (numbers : q.numbers = p.numbers) (hooks : q.hooks = p.hooks)
    (remains : Status.Remains task y q.status) : q.Stands P task y :=
  ⟨failed.trans h.failed, numbers.trans h.numbers, hooks ▸ h.hooks, remains⟩

lemma Stands.finish (h : p.Stands P task x) {r : Except LockError β} (ends : x.result? = some r) :
    (p.finish r).Stands P task x := by
  cases r with
  | ok b => exact h.of_status rfl rfl rfl ⟨_, ends, rfl⟩
  | error e => exact h.of_status rfl rfl rfl ⟨_, ends, congrFun h.failed e⟩

lemma Stands.signal (h : p.Stands P task x) (s : Signal) : (p.signal s).Stands P task x :=
  h.of_status rfl rfl rfl h.remains

lemma Stands.settled (h : p.Stands P task x) {b : β} (ended : p.result? = some b) :
    ∃ r, x.result? = some r ∧ b = task.settle r := by
  have remains := h.remains
  unfold Process.result? at ended
  split at ended
  · rename_i status
    rw [status] at remains
    cases ended
    exact remains
  · cases ended

lemma Stands.within (h : p.Stands P task x) (kind : Call.Kind) :
    ∀ a ∈ p.hookActions kind, a.Within P := by
  intro a mem
  obtain ⟨hook, found, acts⟩ := List.mem_flatMap.1 mem
  exact h.hooks hook (List.mem_filter.1 found).1 a acts

end Process

def asking : List Call → Op β
  | [] => .fail .cancelled
  | c :: calls => .call c fun _ => asking calls

def seat (numbers : Bool) (x : Op β) (ids : List String) : Op β :=
  if numbers then x.numbered ids else x

lemma result?_seat (numbers : Bool) (x : Op β) (ids : List String) :
    (seat numbers x ids).result? = x.result? := by
  unfold seat
  split
  · exact x.result?_numbered ids
  · rfl

def sessions (P : Play β) (f : Nat → Op β) (s : Store) (ids : Nat → List String)
    (calls : List Call) : Sessions (Option Nat) β where
  store := s
  op
    | none => asking calls
    | some i => seat (P.numbers i) (f i) (ids i)

variable [Regex.Engine]

-- Sessions can go on from the first store to the second. The ids and the calls that are left for
-- afterwards are given, and those that were there before are found.
def Reaches (P : Play β) (f : Nat → Op β) (s : Store) (f' : Nat → Op β) (s' : Store) : Prop :=
  ∀ ids' calls', ∃ ids calls h, (∀ c ∈ calls, P.Intrudes c ∨ c ∈ calls') ∧
    (sessions P f s ids calls).run h = sessions P f' s' ids' calls'

namespace Reaches

variable {P : Play β} {f f' f'' : Nat → Op β} {s s' s'' : Store} {i : Nat} {x : Op β}
  {t : Turn (Option Nat)}

lemma refl : Reaches P f s f s := fun ids calls => ⟨ids, calls, [], fun _ => .inr, rfl⟩

lemma stay (i : Nat) : Reaches P f s (Function.update f i (f i)) s := by
  rw [Function.update_eq_self]
  exact refl

lemma trans (first : Reaches P f s f' s') (rest : Reaches P f' s' f'' s'') :
    Reaches P f s f'' s'' := by
  intro ids'' calls''
  obtain ⟨ids', calls', h', intruded', ran'⟩ := rest ids'' calls''
  obtain ⟨ids, calls, h, intruded, ran⟩ := first ids' calls'
  refine ⟨ids, calls, h ++ h', fun c mem => ?_, ?_⟩
  · exact (intruded c mem).elim .inl (intruded' c)
  · rw [Sessions.run, List.foldl_append, ← ran', ← ran]
    rfl

lemma turn (own : t.session = some i)
    (step : ∀ ids', ∃ ids,
      (seat (P.numbers i) (f i) ids).step s t = (seat (P.numbers i) x ids', s')) :
    Reaches P f s (Function.update f i x) s' := by
  intro ids' calls
  obtain ⟨ids, step⟩ := step (ids' i)
  refine ⟨Function.update ids' i ids, calls, [t], fun _ => .inr, ?_⟩
  have taken : (sessions P f s (Function.update ids' i ids) calls).op t.session =
      seat (P.numbers i) (f i) ids := by
    rw [own]
    exact congrArg (seat (P.numbers i) (f i)) (Function.update_self ..)
  simp only [Sessions.run, List.foldl_cons, List.foldl_nil, Sessions.step, taken]
  simp only [sessions, step, Sessions.mk.injEq, true_and, own]
  funext j
  cases j with
  | none => rfl
  | some j =>
    by_cases same : j = i
    · subst same
      simp
    · simp [same]

lemma intrude {c : Call} (intrudes : P.Intrudes c) (f : Nat → Op β) (s : Store) (now : Timestamp) :
    Reaches P f s f (s.apply now c).2 := by
  intro ids calls
  refine ⟨ids, c :: calls, [{ session := none, now := now }], fun c' mem => ?_, ?_⟩
  · rcases List.mem_cons.1 mem with rfl | later
    · exact .inl intrudes
    · exact .inr later
  · simp only [Sessions.run, List.foldl_cons, List.foldl_nil, Sessions.step]
    simp only [sessions, Sessions.mk.injEq]
    refine ⟨rfl, funext fun j => ?_⟩
    cases j <;> rfl

lemma step (P : Play β) (f : Nat → Op β) (s : Store) (own : t.session = some i)
    (other : ∀ l next, (f i).action ≠ .call (.insertLock l) next) :
    Reaches P f s (Function.update f i ((f i).step s t).1) ((f i).step s t).2 := by
  refine turn own fun ids => ⟨ids, ?_⟩
  unfold seat
  split
  · exact (f i).step_numbered s t other ids
  · rfl

variable {task : Task β} {w : World}

lemma insertLock {l : NewLock} {next : Except DatabaseError (Option Lock) → Op β}
    (own : t.session = some i) (now : t.now = w.now) (played : P.cast i = some task)
    (action : (f i).action = .call (.insertLock l) next) :
    Reaches P f w.store
      (Function.update f i (next (.ok (w.answer task.numbers (.insertLock l)).1)))
      (w.answer task.numbers (.insertLock l)).2.store := by
  refine turn own fun ids => ?_
  rw [Play.numbers, played, Option.any_some]
  cases task.numbers with
  | true =>
    refine ⟨w.nextLockId :: ids, ?_⟩
    change ((f i).numbered _).step _ _ = _
    rw [Op.step_numbered_insertLock _ _ action, now]
    rfl
  | false =>
    refine ⟨ids, ?_⟩
    change (f i).step _ _ = _
    rw [Op.step, action, now]
    rfl

lemma call {c : Call} {next : Except DatabaseError c.Reply → Op β} (own : t.session = some i)
    (now : t.now = w.now) (played : P.cast i = some task) (action : (f i).action = .call c next) :
    Reaches P f w.store (Function.update f i (next (.ok (w.answer task.numbers c).1)))
      (w.answer task.numbers c).2.store := by
  cases c with
  | insertLock l => exact insertLock own now played action
  | _ =>
    have other (l : NewLock) (next' : Except DatabaseError (Option Lock) → Op β) :
        (f i).action ≠ .call (.insertLock l) next' := by
      rw [action]
      simp
    have goes := step P f w.store own other
    rw [Op.step, action, now] at goes
    exact goes

end Reaches

namespace Process

variable {P : Play β} {f : Nat → Op β} {i : Nat} {task : Task β} {p : Process β}

lemma HookEffect.actAll_reaches (f : Nat → Op β) {e : HookEffect} {actions : List HookAction}
    (within : ∀ a ∈ actions, a.Within P) (sound : e.failure = none) :
    (e.actAll actions).failure = none ∧
      Reaches P f e.world.store f (e.actAll actions).world.store := by
  induction actions generalizing e with
  | nil => exact ⟨sound, .refl⟩
  | cons a actions ih =>
    obtain ⟨⟨unfailing, intrudes⟩, within⟩ := List.forall_mem_cons.1 within
    rw [actAll, sound, Option.isSome_none, if_neg Bool.false_ne_true]
    have rest (e' : HookEffect) := ih (e := e') within
    cases a with
    | delete key =>
      have first := Reaches.intrude (intrudes _ rfl) f e.world.store e.world.now
      obtain ⟨sound', goes⟩ := rest (e.act (.delete key)) sound
      exact ⟨sound', first.trans goes⟩
    | insert key session =>
      have inserts := intrudes _ ⟨e.world.nextLockId, rfl⟩
      have first := Reaches.intrude inserts f e.world.store e.world.now
      obtain ⟨sound', goes⟩ := rest (e.act (.insert key session)) sound
      exact ⟨sound', first.trans goes⟩
    | cancel => exact rest (e.act .cancel) sound
    | fail cause => exact absurd rfl (unfailing cause)

lemma Stands.makeCall (h : p.Stands P task (f i)) (played : P.cast i = some task) {c : Call}
    {next : Except DatabaseError c.Reply → Op β} (action : (f i).action = .call c next)
    (w : World) : ∃ x, (makeCall w p c next).2.Stands P task x ∧
      Reaches P f w.store (Function.update f i x) (makeCall w p c next).1.store := by
  obtain ⟨sound, hooked⟩ :=
    HookEffect.actAll_reaches f (e := { world := w }) (h.within c.kind) rfl
  unfold Process.makeCall
  simp only [sound]
  refine ⟨_, h.of_status rfl rfl rfl rfl, hooked.trans ?_⟩
  rw [h.numbers]
  exact .call (t := { session := some i, now := _ }) rfl rfl played action

lemma Stands.step (h : p.Stands P task (f i)) (played : P.cast i = some task) (w : World) :
    ∃ x, (p.step w).2.Stands P task x ∧
      Reaches P f w.store (Function.update f i x) (p.step w).1.store := by
  let t : Turn (Option Nat) :=
    { session := some i, now := w.now, clock := w.clock, fired := p.fired }
  have remains := h.remains
  unfold Process.step
  cases status : p.status with
  | running op =>
    rw [status] at remains
    obtain rfl : op = f i := remains
    have takes := Reaches.step P f w.store (t := t) (i := i) rfl
    cases action : (f i).action with
    | done r =>
      simp only [action]
      exact ⟨f i, h.finish (by rw [Op.result?, action]), .stay i⟩
    | log event next =>
      simp only [Op.step, action] at takes ⊢
      exact ⟨next, h.of_status rfl rfl rfl rfl, takes (by simp)⟩
    | call c next =>
      simp only [action]
      exact h.makeCall played action w
    | clock next =>
      simp only [Op.step, action] at takes ⊢
      exact ⟨_, h.of_status rfl rfl rfl rfl, takes (by simp)⟩
    | token next =>
      simp only [Op.step, action] at takes ⊢
      exact ⟨_, h.of_status rfl rfl rfl rfl, takes (by simp)⟩
    | nap length next =>
      -- where it falls asleep, its session takes no turn before it wakes
      simp only [Op.step, action] at takes ⊢
      split
      · rename_i fired
        simp only [t, fired] at takes
        exact ⟨_, h.of_status rfl rfl rfl rfl, takes (by simp)⟩
      · exact ⟨f i, h.of_status rfl rfl rfl ⟨length, action⟩, .stay i⟩
  | napping wake next =>
    rw [status] at remains
    obtain ⟨length, action⟩ := remains
    have takes := Reaches.step P f w.store (t := t) (i := i) rfl
    simp only [Op.step, action] at takes
    exact ⟨_, h.of_status rfl rfl rfl rfl, takes (by simp)⟩
  | finished b => exact ⟨f i, h, .stay i⟩

lemma Stands.proceed (h : p.Stands P task (f i)) (played : P.cast i = some task)
    (alarm fuel : Nat) (w : World) :
    ∃ x, (p.proceed alarm fuel w).2.Stands P task x ∧
      Reaches P f w.store (Function.update f i x) (p.proceed alarm fuel w).1.store := by
  induction fuel generalizing p w f with
  | zero => exact ⟨f i, h, .stay i⟩
  | succ fuel ih =>
    rw [Process.proceed]
    split
    · obtain ⟨x, next, first⟩ := h.step played w
      rw [← Function.update_self i x f] at next
      obtain ⟨x', stands, rest⟩ := ih next (p.step w).1
      rw [Function.update_idem] at rest
      exact ⟨x', stands, first.trans rest⟩
    · exact ⟨f i, h, .stay i⟩

end Process

end LockRegistry.Scenario
