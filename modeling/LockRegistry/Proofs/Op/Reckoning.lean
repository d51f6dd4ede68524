import LockRegistry.Proofs.Op.Rounds
import LockRegistry.Proofs.Op.Underway
import Mathlib.Algebra.Order.Floor.Div

namespace LockRegistry

namespace Sight

def goesOn : Sight → Bool
  | token false => true
  | _ => false

def endsAt (now : Nat) : Sight → Nat
  | clock time => time
  | nap length false => now + length
  | _ => now

end Sight

def tries (t : List Sight) : Nat := t.countP Sight.goesOn

def clockAfter (now : Nat) (t : List Sight) : Nat := t.foldl Sight.endsAt now

def OnTime (now : Nat) : List Sight → Prop
  | [] => True
  | s :: t => now ≤ s.endsAt now ∧ OnTime (s.endsAt now) t

instance decidableOnTime : (now : Nat) → (t : List Sight) → Decidable (OnTime now t)
  | _, [] => isTrue trivial
  | now, s :: t => @instDecidableAnd _ _ _ (decidableOnTime (s.endsAt now) t)

variable {now : Nat} {t u : List Sight}

@[simp] lemma tries_append (t u : List Sight) : tries (t ++ u) = tries t + tries u :=
  List.countP_append

lemma clockAfter_append (now : Nat) (t u : List Sight) :
    clockAfter now (t ++ u) = clockAfter (clockAfter now t) u :=
  List.foldl_append

lemma onTime_append : OnTime now (t ++ u) ↔ OnTime now t ∧ OnTime (clockAfter now t) u := by
  induction t generalizing now with
  | nil => simp [OnTime, clockAfter]
  | cons s t ih => exact (and_congr_right fun _ => ih).trans and_assoc.symm

lemma OnTime.le_clockAfter (h : OnTime now t) : now ≤ clockAfter now t := by
  induction t generalizing now with
  | nil => exact Nat.le_refl now
  | cons s t ih => exact h.1.trans (ih h.2)

lemma OnTime.elapsed {ended : Nat} (h : OnTime now (t ++ [.clock ended])) :
    now ≤ ended ∧ (Wait.millis (ended - now) = (ended - now) / 1000000 ↔
      (ended - now) / 1000000 < 2 ^ 64) := by
  obtain ⟨before, last, -⟩ := onTime_append.1 h
  exact ⟨before.le_clockAfter.trans last, Nat.mod_eq_iff_lt (by decide)⟩

namespace Wait

variable {w w' : Wait} {timeout poll start : Nat} {l u x : List Sight}

def Phase.polls? : Phase → Option UInt32
  | .start | .over _ => none
  | .ready _ polls | .look _ polls | .held _ polls | .nap _ polls _ => some polls

def Phase.deadline? : Phase → Option (Option Nat)
  | .start | .over _ => none
  | .ready d _ | .look d _ | .nap d _ _ => some d
  | .held d _ => some (some d)

-- The counter is exact modulo 2 ^ 32, and the time that is subtracted from the deadline is the
-- earlier of the two.
structure Reckons (timeout poll start : Nat) (l : List Sight) (w : Wait) : Prop where
  begun : w.phase ≠ .start
  interval : w.poll = poll
  bounded : ∀ d ∈ w.phase.deadline?, d = Wait.deadline? start timeout
  counted : ∀ c ∈ w.phase.polls?, c.toNat = tries l % 2 ^ 32
  told : ∀ e ∈ w.pending, ∀ v, ("polls", v) ∈ e.fields → v = .int (tries l % 2 ^ 32 : Nat)
  napping : ∀ d c n, w.phase = .nap (some d) c n →
    ∃ l₀ now, l = l₀ ++ [.clock now] ∧ now < d ∧ n = min poll (d - now)

section Reckons

variable {polls : UInt32} {d : Option Nat} {n : Nat}

lemma told_of_says {message : String} {rest : List (String × LogValue)} {m : Nat}
    (count : polls.toNat = m) (other : ∀ v, ("polls", v) ∉ rest) :
    ∀ e ∈ [w.event message (pollsField polls :: rest)], ∀ v, ("polls", v) ∈ e.fields →
      v = .int m := by
  intro e he v mem
  rw [List.mem_singleton.1 he, event] at mem
  simpa [pollsField, count, other v] using mem

lemma reckons_over (w : Wait) (count : polls.toNat = tries l % 2 ^ 32) (message : String)
    (r : Except LockError Ending) :
    Reckons timeout w.poll start l (w.goSaying (.over r) message [pollsField polls]) where
  begun := nofun
  interval := rfl
  bounded := nofun
  counted := nofun
  told := told_of_says count (by simp)
  napping := nofun

lemma reckons_napping (w : Wait) (count : polls.toNat = tries l % 2 ^ 32)
    (bound : d = Wait.deadline? start timeout)
    (within : ∀ d' ∈ d, ∃ l₀ now, l = l₀ ++ [.clock now] ∧ now < d' ∧ n = min w.poll (d' - now)) :
    Reckons timeout w.poll start l (w.goNapping d polls n) where
  begun := nofun
  interval := rfl
  bounded := by
    rintro _ ⟨⟩
    exact bound
  counted := by
    rintro _ ⟨⟩
    exact count
  told := told_of_says count (by simp)
  napping := by
    rintro d' _ _ ⟨⟩
    exact within d' rfl

lemma reckons_begun (key : LockKey) (timeout poll start : Nat) :
    Reckons timeout poll start []
      (begun { key := key, timeout := timeout, poll := poll } start) := by
  unfold begun
  split <;> rename_i bound <;> constructor <;>
    simp [goTo, goSaying, event, Phase.deadline?, Phase.polls?, bound, tries]

lemma reckons_of_shows (h : w.action.Shows x w') (reckons : Reckons timeout poll start l w) :
    Reckons timeout poll start (l ++ x) w' := by
  obtain ⟨key, T, p, phase, pending⟩ := w
  obtain ⟨begun, rfl, bounded, counted, told, napping⟩ := reckons
  cases pending with
  | cons e es =>
    cases h
    rw [List.append_nil]
    exact ⟨begun, rfl, bounded, counted, fun e he => told e (.tail _ he), napping⟩
  | nil =>
    cases phase with
    | start => exact absurd rfl begun
    | ready d polls =>
      cases h with | token _ fired => ?_
      cases fired with
      | true => exact ⟨nofun, rfl, nofun, nofun, nofun, nofun⟩
      | false =>
        refine ⟨nofun, rfl, bounded, ?_, nofun, nofun⟩
        rintro _ ⟨⟩
        rw [UInt32.toNat_add, counted polls rfl, tries_append]
        exact Nat.mod_add_mod ..
    | look d polls =>
      have count := counted polls rfl
      cases h with | call _ _ isHeld => ?_
      have same : tries (l ++ [.asked ⟨.lockExists key, isHeld⟩]) = tries l := tries_append ..
      cases isHeld with
      | false => exact reckons_over _ (same ▸ count) _ _
      | true =>
        cases d with
        | none => exact reckons_napping _ (same ▸ count) (bounded none rfl) nofun
        | some d =>
          refine ⟨nofun, rfl, bounded, ?_, nofun, nofun⟩
          rintro _ ⟨⟩
          rwa [same]
    | held d polls =>
      have count := counted polls rfl
      cases h with | clock _ now => ?_
      have same : tries (l ++ [.clock now]) = tries l := tries_append ..
      unfold compared
      split
      · exact reckons_over _ (same ▸ count) _ _
      · rename_i early
        refine reckons_napping _ (same ▸ count) (bounded _ rfl) ?_
        rintro _ ⟨⟩
        exact ⟨l, now, rfl, Nat.lt_of_not_le early, rfl⟩
    | nap d polls n =>
      have count := counted polls rfl
      cases h with | nap _ _ fired => ?_
      have same : tries (l ++ [.nap n fired]) = tries l := tries_append ..
      cases fired with
      | true => exact reckons_over _ (same ▸ count) _ _
      | false =>
        refine ⟨nofun, rfl, bounded, ?_, nofun, nofun⟩
        rintro _ ⟨⟩
        rwa [same]
    | «over» result => cases h

lemma reckons_of_comes (h : Comes action w u w') (reckons : Reckons timeout poll start l w) :
    Reckons timeout poll start (l ++ u) w' :=
  h.preserves reckons_of_shows reckons

lemma Reckons.exact_iff (h : Reckons timeout poll start l w) :
    ∀ c ∈ w.phase.polls?, c.toNat = tries l ↔ tries l < 2 ^ 32 := fun c mem => by
  rw [h.counted c mem]
  exact Nat.mod_eq_iff_lt (by decide)

end Reckons

section Pace

variable {k m : Nat}

-- When the look after so many others is due, if only naps take time.
def due (start timeout poll k : Nat) : Nat := min (start + poll * k) (start + timeout)

def Phase.Paced (start timeout poll k now : Nat) : Phase → Prop
  | .start => False
  | .ready _ _ => k ≤ timeout ⌈/⌉ poll ∧ due start timeout poll k ≤ now
  | .look _ _ | .held _ _ =>
    ∃ m, k = m + 1 ∧ m ≤ timeout ⌈/⌉ poll ∧ due start timeout poll m ≤ now
  | .nap _ _ n => k ≤ timeout ⌈/⌉ poll ∧ due start timeout poll k ≤ now + n
  | .over _ => k ≤ timeout ⌈/⌉ poll + 1

lemma Phase.Paced.few {phase : Phase} (h : phase.Paced start timeout poll k now) :
    k ≤ timeout ⌈/⌉ poll + 1 := by
  cases phase with
  | start => exact h.elim
  | ready | nap => exact Nat.le_succ_of_le h.1
  | look | held =>
    obtain ⟨m, rfl, few, -⟩ := h
    exact Nat.succ_le_succ few
  | «over» => exact h

lemma lt_ceilDiv (positive : 0 < poll) : k < timeout ⌈/⌉ poll ↔ poll * k < timeout := by
  rw [← Nat.not_le, ceilDiv_le_iff_le_mul positive, Nat.not_le]

lemma due_succ (positive : 0 < poll) (passed : due start timeout poll m ≤ now)
    (early : now < start + timeout) :
    m + 1 ≤ timeout ⌈/⌉ poll ∧
      due start timeout poll (m + 1) ≤ now + min poll (start + timeout - now) := by
  unfold due at *
  constructor
  · exact (lt_ceilDiv positive).2 (by omega)
  · rw [Nat.mul_succ]
    omega

lemma paced_of_shows (positive : 0 < poll) (fits : start + timeout < clockLimit)
    (h : w.action.Shows x w') (reckons : Reckons timeout poll start l w)
    (onTime : OnTime start (l ++ x))
    (paced : w.phase.Paced start timeout poll (tries l) (clockAfter start l)) :
    w'.phase.Paced start timeout poll (tries (l ++ x)) (clockAfter start (l ++ x)) := by
  rw [tries_append, clockAfter_append]
  have forward := (onTime_append.1 onTime).2
  have bound : Wait.deadline? start timeout = some (start + timeout) := if_pos fits
  generalize tries l = k, clockAfter start l = now at paced forward ⊢
  obtain ⟨key, T, p, phase, pending⟩ := w
  obtain ⟨begun, rfl, bounded, -, -, -⟩ := reckons
  cases pending with
  | cons e es => cases h; exact paced
  | nil =>
    cases phase with
    | start => exact absurd rfl begun
    | ready d polls =>
      cases h with | token _ fired => ?_
      cases fired with
      | true => exact Nat.le_succ_of_le paced.1
      | false => exact ⟨k, rfl, paced⟩
    | look d polls =>
      obtain ⟨m, rfl, few, passed⟩ := paced
      cases h with | call _ _ isHeld => ?_
      cases isHeld with
      | false => exact Nat.succ_le_succ few
      | true =>
        obtain rfl : d = some (start + timeout) := (bounded d rfl).trans bound
        exact ⟨m, rfl, few, passed⟩
    | held d polls =>
      obtain ⟨m, rfl, few, passed⟩ := paced
      obtain rfl : d = start + timeout := Option.some.inj ((bounded (some d) rfl).trans bound)
      cases h with | clock _ time => ?_
      unfold compared
      split
      · exact Nat.succ_le_succ few
      · rename_i early
        exact due_succ positive (passed.trans forward.1) (Nat.lt_of_not_le early)
    | nap d polls n =>
      cases h with | nap _ _ fired => ?_
      cases fired with
      | true => exact Nat.le_succ_of_le paced.1
      | false => exact paced
    | «over» result => cases h

lemma paced_begun (key : LockKey) (fits : start + timeout < clockLimit) :
    (begun { key := key, timeout := timeout, poll := poll } start).phase.Paced start timeout poll
      0 start := by
  unfold begun
  rw [show Wait.deadline? start timeout = some (start + timeout) from if_pos fits]
  exact ⟨Nat.zero_le _, Nat.min_le_left _ _⟩

lemma paced_of_comes (positive : 0 < poll) (fits : start + timeout < clockLimit)
    (h : Comes action w u w') (reckons : Reckons timeout poll start l w)
    (onTime : OnTime start (l ++ u))
    (paced : w.phase.Paced start timeout poll (tries l) (clockAfter start l)) :
    w'.phase.Paced start timeout poll (tries (l ++ u)) (clockAfter start (l ++ u)) := by
  induction h with
  | start => rwa [List.append_nil]
  | step before shows ih =>
    rw [← List.append_assoc] at onTime ⊢
    have reckons' := reckons_of_comes before reckons
    exact paced_of_shows positive fits shows reckons' onTime (ih (onTime_append.1 onTime).1)

end Pace

lemma begun_of_comes {key : LockKey} {t : List Sight}
    (h : Comes action { key := key, timeout := timeout, poll := poll } t w) :
    (t = [] ∧ w.phase = .start) ∨ ∃ start l, t = .clock start :: l ∧
      Reckons timeout poll start l w ∧
      (0 < poll → start + timeout < clockLimit → OnTime start l →
        tries l ≤ timeout ⌈/⌉ poll + 1) := by
  rcases h.cases_head with ⟨rfl, rfl⟩ | ⟨x, w₁, l, shows, rfl, later⟩
  · exact .inl ⟨rfl, rfl⟩
  · cases shows with | clock _ start => ?_
    have first := reckons_begun key timeout poll start
    refine .inr ⟨start, l, rfl, reckons_of_comes later first, fun positive fits onTime => ?_⟩
    exact (paced_of_comes positive fits later first onTime (paced_begun key fits)).few

section Rounds

variable {key : LockKey} {deadline : Option Nat} {n : Nat}

lemma comes_of_pending (w : Wait) (h : Comes action { w with pending := [] } x w') :
    Comes action w x w' := by
  obtain ⟨key, timeout, poll, phase, pending⟩ := w
  induction pending with
  | nil => exact h
  | cons e es ih => exact .log rfl (ih h)

lemma comes_round (pause : Pause poll deadline x n) (polls : UInt32) :
    Comes action (inPhase key timeout poll (.ready deadline polls))
      (finding key ++ x ++ [.nap n false])
      (inPhase key timeout poll (.ready deadline (polls + 1))) := by
  have naps : Comes action (inPhase key timeout poll (.nap deadline (polls + 1) n)) [.nap n false]
      (inPhase key timeout poll (.ready deadline (polls + 1))) := .nap rfl .start
  rw [List.append_assoc]
  refine .token rfl (.call (c := .lockExists key) rfl true ?_)
  cases pause with
  | unbounded => exact comes_of_pending _ naps
  | @bounded d now before =>
    refine .clock rfl (comes_of_pending _ ?_)
    simp only [goTo, compared, if_neg (Nat.not_le.2 before)]
    exact naps

lemma exists_comes (key : LockKey) (timeout poll start : Nat)
    (endless : clockLimit ≤ start + timeout) (n : Nat) :
    ∃ l, Comes action { key := key, timeout := timeout, poll := poll } (.clock start :: l)
        (inPhase key timeout poll (.ready none (.ofNat n))) ∧
      tries l = n ∧ OnTime start l := by
  induction n with
  | zero =>
    refine ⟨[], .clock rfl (comes_of_pending _ ?_), rfl, trivial⟩
    unfold begun
    rw [show deadline? start timeout = none from if_neg (Nat.not_lt.2 endless)]
    exact .start
  | succ n ih =>
    obtain ⟨l, comes, rfl, onTime⟩ := ih
    refine ⟨l ++ (finding key ++ [] ++ [.nap poll false]), ?_, tries_append .., ?_⟩
    · rw [UInt32.ofNat_add]
      exact comes.trans (comes_round .unbounded _)
    · exact onTime_append.2 ⟨onTime, by simp [finding, OnTime, Sight.endsAt]⟩

end Rounds

end Wait

end LockRegistry
