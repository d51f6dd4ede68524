import LockRegistry.Proofs.Scenario.Processes
import LockRegistry.Scenario.Run

namespace LockRegistry.Scenario

variable {β : Type}

namespace Happening

def Stands (P : Play β) (task? : Option (Task β)) (x : Op β) : Happening β → Prop
  | .planned _ (.run task) => task? = some task ∧ x = task.op
  | .planned _ _ => task? = none
  | .going p => ∃ task, task? = some task ∧ p.Stands P task x
  | .settled _ => task? = none

lemma Stands.signal {P : Play β} {task? : Option (Task β)} {x : Op β} {y : Happening β}
    (h : y.Stands P task? x) (s : Signal) : (y.signal s).Stands P task? x := by
  cases y with
  | planned | settled => exact h
  | going p =>
    obtain ⟨task, played, stands⟩ := h
    exact ⟨task, played, stands.signal s⟩

lemma Stands.settled {P : Play β} {task : Task β} {x : Op β} {y : Happening β} {b : β}
    (h : y.Stands P (some task) x) (ended : y.result? = some b) :
    ∃ r, x.result? = some r ∧ b = task.settle r := by
  cases y with
  | planned => cases ended
  | settled => cases h
  | going p =>
    obtain ⟨_, ⟨⟩, stands⟩ := h
    exact stands.settled ended

def AllStand (P : Play β) (f : Nat → Op β) : Nat → List (Happening β) → Prop
  | _, [] => True
  | i, y :: rest => y.Stands P (P.cast i) (f i) ∧ AllStand P f (i + 1) rest

variable {P : Play β} {f f' : Nat → Op β} {i : Nat} {l : List (Happening β)}

lemma AllStand.congr (h : AllStand P f i l) (same : ∀ j, i ≤ j → f' j = f j) :
    AllStand P f' i l := by
  induction l generalizing i with
  | nil => trivial
  | cons y l ih =>
    refine ⟨?_, ih h.2 fun j after => same j (Nat.le_of_succ_le after)⟩
    rw [same i (Nat.le_refl i)]
    exact h.1

lemma AllStand.signal (h : AllStand P f i l) (s : Signal) :
    AllStand P f i (l.map (·.signal s)) := by
  induction l generalizing i with
  | nil => trivial
  | cons y l ih => exact ⟨h.1.signal s, ih h.2⟩

lemma AllStand.getElem? (h : AllStand P f i l) {k : Nat} {y : Happening β}
    (found : l[k]? = some y) : y.Stands P (P.cast (i + k)) (f (i + k)) := by
  induction l generalizing i k with
  | nil => cases found
  | cons z l ih =>
    cases k with
    | zero =>
      cases found
      exact h.1
    | succ k =>
      rw [← Nat.succ_add_eq_add_succ]
      exact ih h.2 found

variable [Regex.Engine]

structure GoesOn (P : Play β) (f : Nat → Op β) (i : Nat) (s s' : Stage β) (y : Happening β)
    (x : Op β) : Prop where
  stands : y.Stands P (P.cast i) x
  reaches : Reaches P f s.world.store (Function.update f i x) s'.world.store
  main : ∀ task z, s.main.Stands P task z → s'.main.Stands P task z

variable {s : Stage β} {y : Happening β}

lemma GoesOn.stay {s' : Stage β} (stands : y.Stands P (P.cast i) (f i))
    (store : s'.world.store = s.world.store)
    (main : ∀ task z, s.main.Stands P task z → s'.main.Stands P task z) :
    GoesOn P f i s s' y (f i) :=
  ⟨stands, store ▸ .stay i, main⟩

lemma goOn_goesOn {p : Process β} {task : Task β} (h : p.Stands P task (f i))
    (played : P.cast i = some task) :
    ∃ x, GoesOn P f i s (goOn s p).1 (goOn s p).2 x := by
  obtain ⟨x, stands, reaches⟩ := h.proceed played s.alarm stepLimit s.world
  exact ⟨x, ⟨task, played, stands⟩, reaches, fun _ _ => id⟩

lemma begin_goesOn {due : Nat} {work : Work β}
    (h : (planned due work).Stands P (P.cast i) (f i)) :
    ∃ x, GoesOn P f i s (begin s work).1 (begin s work).2 x := by
  cases work with
  | run task =>
    obtain ⟨played, begins⟩ := h
    refine goOn_goesOn ⟨rfl, rfl, fun hook none => ?_, begins.symm⟩ played
    cases none
  | send signal result =>
    cases signal with
    | cancel => exact ⟨f i, .stay h rfl fun _ _ stands => stands.signal .cancel⟩
    | interrupt => exact ⟨f i, .stay h rfl fun _ _ => id⟩
  | view | advance | settled => exact ⟨f i, .stay h rfl fun _ _ => id⟩

lemma proceed_goesOn (h : y.Stands P (P.cast i) (f i)) :
    ∃ x, GoesOn P f i s (proceed s y).1 (proceed s y).2 x := by
  cases y with
  | planned due work =>
    rw [proceed]
    split
    · exact begin_goesOn h
    · exact ⟨f i, .stay h rfl fun _ _ => id⟩
  | going p =>
    obtain ⟨task, played, stands⟩ := h
    exact goOn_goesOn stands played
  | settled b => exact ⟨f i, .stay h rfl fun _ _ => id⟩

lemma proceedAll_stands (h : AllStand P f i l) :
    ∃ f', AllStand P f' i (proceedAll s l).2 ∧ (∀ j < i, f' j = f j) ∧
      Reaches P f s.world.store f' (proceedAll s l).1.world.store ∧
      ∀ task z, s.main.Stands P task z → (proceedAll s l).1.main.Stands P task z := by
  induction l generalizing i s f with
  | nil => exact ⟨f, trivial, fun _ _ => rfl, .refl, fun _ _ => id⟩
  | cons y l ih =>
    obtain ⟨x, stands, first, main⟩ := proceed_goesOn (s := s) h.1
    have others : AllStand P (Function.update f i x) (i + 1) l :=
      h.2.congr fun j after => Function.update_of_ne (Nat.ne_of_gt after) ..
    obtain ⟨f', stands', same, rest, main'⟩ := ih (s := (proceed s y).1) others
    have own : f' i = x := (same i (Nat.lt_succ_self i)).trans (Function.update_self ..)
    refine ⟨f', ⟨own ▸ stands, stands'⟩, fun j before => ?_, first.trans rest, fun task z => ?_⟩
    · rw [same j (Nat.lt_succ_of_lt before), Function.update_of_ne (Nat.ne_of_lt before)]
    · exact main' task z ∘ main task z

end Happening

namespace Scene

structure Stands (s : Scene β) (P : Play β) (lead : Task β) (f : Nat → Op β) : Prop where
  main : s.main.Stands P lead (f 0)
  others : Happening.AllStand P f 1 s.others

variable {P : Play β} {lead : Task β} {f : Nat → Op β} {s s' : Scene β}

lemma store_foldl_say (w : World) (events : List LogEvent) :
    (events.foldl World.say w).store = w.store := by
  induction events generalizing w with
  | nil => rfl
  | cons e events ih => exact ih (w.say e)

lemma Stands.deliver (h : s.Stands P lead f) : s.deliver.Stands P lead f := by
  unfold Scene.deliver
  split
  · exact ⟨h.main.signal .interrupt, h.others.signal .interrupt⟩
  · exact h

lemma store_deliver (s : Scene β) : s.deliver.world.store = s.world.store := by
  unfold Scene.deliver
  split
  · exact store_foldl_say ..
  · rfl

lemma Stands.next? (h : s.Stands P lead f) (next : s.next? = some s') :
    s'.Stands P lead f ∧ s'.world.store = s.world.store := by
  unfold Scene.next? at next
  dsimp only at next
  split at next
  · cases next
    exact ⟨⟨h.deliver.main, h.deliver.others⟩, s.store_deliver⟩
  · obtain ⟨time, -, rfl⟩ := Option.map_eq_some_iff.1 next
    exact ⟨⟨h.deliver.main, h.deliver.others⟩, s.store_deliver⟩

variable [Regex.Engine]

lemma Stands.turn (h : s.Stands P lead f) (played : P.cast 0 = some lead) :
    ∃ f', s.turn.Stands P lead f' ∧ Reaches P f s.world.store f' s.turn.world.store := by
  obtain ⟨x, main, first⟩ := h.main.proceed played s.stage.alarm stepLimit s.world
  have others : Happening.AllStand P (Function.update f 0 x) 1 s.others :=
    h.others.congr fun j after => Function.update_of_ne (Nat.ne_of_gt after) ..
  have main : (s.main.proceed s.stage.alarm stepLimit s.world).2.Stands P lead
      (Function.update f 0 x 0) := by rwa [Function.update_self]
  unfold Scene.turn
  dsimp only
  split
  · exact ⟨_, ⟨main, others⟩, first⟩
  · obtain ⟨f', others', same, rest, kept⟩ := Happening.proceedAll_stands others
    exact ⟨f', ⟨same 0 (Nat.zero_lt_one) ▸ kept _ _ main, others'⟩, first.trans rest⟩

lemma Stands.run (h : s.Stands P lead f) (played : P.cast 0 = some lead) (fuel : Nat) :
    ∃ f', (Scene.run fuel s).Stands P lead f' ∧
      Reaches P f s.world.store f' (Scene.run fuel s).world.store := by
  induction fuel generalizing s f with
  | zero => exact ⟨f, h, .refl⟩
  | succ fuel ih =>
    obtain ⟨f₁, stands, first⟩ := h.turn played
    rw [Scene.run]
    split
    · exact ⟨f₁, stands, first⟩
    · cases next : s.turn.next? with
      | none => exact ⟨f₁, stands, first⟩
      | some s₂ =>
        obtain ⟨stands₂, store⟩ := stands.next? next
        obtain ⟨f', stands', rest⟩ := ih stands₂
        exact ⟨f', stands', first.trans (store ▸ rest)⟩

end Scene

section Perform

def Work.task? : Work β → Option (Task β)
  | .run task => some task
  | _ => none

def Disturbance.play (d : Disturbance β) (task : Task β) : Play β where
  cast
    | 0 => some task
    | k + 1 => d.events[k]?.bind (·.2.task?)
  Intrudes c := ∃ hook ∈ d.hooks, ∃ a ∈ hook.actions, a.Makes c

def Play.op (P : Play β) (i : Nat) : Op β := (P.cast i).elim (.fail .cancelled) (·.op)

lemma Happening.stands_planned {P : Play β} {i due : Nat} {work : Work β}
    (played : P.cast i = work.task?) : (planned due work).Stands P (P.cast i) (P.op i) := by
  rw [Play.op, played]
  cases work with
  | run task => exact ⟨rfl, rfl⟩
  | view | advance | send | settled => rfl

lemma Happening.allStand_planned {P : Play β} {i start : Nat} {events : List (Nat × Work β)}
    (played : ∀ k, k < events.length → P.cast (i + k) = events[k]?.bind (·.2.task?)) :
    AllStand P P.op i (events.map fun e => planned (start + e.1) e.2) := by
  induction events generalizing i with
  | nil => trivial
  | cons e events ih =>
    refine ⟨stands_planned (played 0 (Nat.zero_lt_succ _)), ih fun k within => ?_⟩
    rw [Nat.succ_add_eq_add_succ]
    exact played (k + 1) (Nat.succ_lt_succ within)

-- The sessions have the operations of the tasks, but for the ids of locks that are numbered; the
-- calls of one more are those that hooks ask for.
structure Performs (σ : Sessions (Option Nat) β) (P : Play β) : Prop where
  tasks : ∀ i task, P.cast i = some task → ∃ ids, σ.op (some i) = seat task.numbers task.op ids
  hooks : ∃ calls, σ.op none = asking calls ∧ ∀ c ∈ calls, P.Intrudes c

lemma performs_sessions (P : Play β) (s : Store) (ids : Nat → List String) {calls : List Call}
    (intruded : ∀ c ∈ calls, P.Intrudes c) : Performs (sessions P P.op s ids calls) P where
  tasks i task played := by
    refine ⟨ids i, ?_⟩
    simp only [sessions, Play.numbers, Play.op, played, Option.any_some, Option.elim_some]
  hooks := ⟨calls, rfl, intruded⟩

def Disturbance.scene (d : Disturbance β) (w : World) (task : Task β) : Scene β where
  stage :=
    { world := w
      main := { Process.ofTask task with
        fired := d.cancelled && task.heeds == some .cancel
        hooks := d.hooks }
      alarm := w.elapsed }
  others := d.events.map fun e => .planned (w.elapsed + e.1) e.2

lemma Disturbance.stands_scene {d : Disturbance β} (w : World) (task : Task β)
    (unfailing : ∀ hook ∈ d.hooks, ∀ cause, .fail cause ∉ hook.actions) :
    (d.scene w task).Stands (d.play task) task (d.play task).op where
  main :=
    { failed := rfl
      numbers := rfl
      hooks := by
        refine fun hook mem a acts => ⟨?_, fun c makes => ⟨hook, mem, a, acts, makes⟩⟩
        rintro cause rfl
        exact unfailing hook mem cause acts
      remains := rfl }
  others := Happening.allStand_planned fun k _ => by
    rw [Nat.add_comm]
    rfl

variable [Regex.Engine]

lemma Scene.Stands.exists_run {P : Play β} {lead : Task β} {s : Scene β} (h : s.Stands P lead P.op)
    (played : P.cast 0 = some lead) (fuel : Nat) :
    ∃ (σ : Sessions (Option Nat) β) (turns : List (Turn (Option Nat))) (f : Nat → Op β),
      σ.store = s.world.store ∧ Performs σ P ∧
      (σ.run turns).store = (Scene.run fuel s).world.store ∧
      (Scene.run fuel s).Stands P lead f ∧
      ∀ i, (σ.run turns).result? (some i) = (f i).result? := by
  obtain ⟨f, stands, reaches⟩ := h.run played fuel
  obtain ⟨ids, calls, turns, intruded, ran⟩ := reaches (fun _ => []) []
  refine ⟨sessions P P.op s.world.store ids calls, turns, f, rfl, ?_, congrArg Sessions.store ran,
    stands, fun i => ?_⟩
  · refine performs_sessions P s.world.store ids fun c mem => ?_
    exact (intruded c mem).resolve_right List.not_mem_nil
  · rw [Sessions.result?, ran]
    exact result?_seat ..

/-- Whatever happens beside a task, what comes of it is what comes of a run of sessions, if no hook
makes the store fail. -/
theorem World.perform_eq_run (w : World) (task : Task β) (d : Disturbance β)
    (unfailing : ∀ hook ∈ d.hooks, ∀ cause, .fail cause ∉ hook.actions) :
    ∃ (σ : Sessions (Option Nat) β) (turns : List (Turn (Option Nat))), σ.store = w.store ∧
      Performs σ (d.play task) ∧ (σ.run turns).store = (w.perform (.run task) d).1.store ∧
      (∀ b, (w.perform (.run task) d).2.result = some b →
        ∃ r, (σ.run turns).result? (some 0) = some r ∧ b = task.settle r) ∧
      ∀ k other b, (d.play task).cast (k + 1) = some other →
        (w.perform (.run task) d).2.others[k]? = some (some b) →
        ∃ r, (σ.run turns).result? (some (k + 1)) = some r ∧ b = other.settle r := by
  obtain ⟨σ, turns, f, store, performs, store', stands, results⟩ :=
    (Disturbance.stands_scene w task unfailing).exists_run rfl stepLimit
  refine ⟨σ, turns, store, performs, store', fun b ended => ?_, fun k other b played ended => ?_⟩
  · rw [results]
    exact stands.main.settled ended
  · have shown : ((Scene.run stepLimit (d.scene w task)).others.map (·.result?))[k]? =
        some (some b) := ended
    rw [List.getElem?_map, Option.map_eq_some_iff] at shown
    obtain ⟨y, found, ended⟩ := shown
    have other := stands.others.getElem? found
    rw [Nat.add_comm, played] at other
    rw [results]
    exact other.settled ended

end Perform

end LockRegistry.Scenario
