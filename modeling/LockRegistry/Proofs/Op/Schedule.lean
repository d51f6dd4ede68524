import LockRegistry.Proofs.Op.Fates
import LockRegistry.Store
import Mathlib.Algebra.Order.Floor.Div
import Mathlib.Data.List.Range

namespace LockRegistry

def Exchange.looks : Exchange → Bool
  | ⟨.lockExists _, _⟩ => true
  | _ => false

lemma Exchange.looks_eq_false {x : Exchange} (h : ∀ key, x.call ≠ .lockExists key) :
    x.looks = false := by
  unfold looks
  split
  · exact absurd rfl (h _)
  · rfl

def Sight.lasts : Sight → Nat
  | nap length _ => length
  | _ => 0

def slept (t : List Sight) : Nat := (t.map Sight.lasts).sum

def timed (now : Nat) : List Sight → List (Nat × Exchange)
  | [] => []
  | s :: t => s.exchange?.toList.map (now, ·) ++ timed (now + s.lasts) t

def looksAt (now : Nat) (t : List Sight) : List (Nat × Exchange) :=
  (timed now t).filter (·.2.looks)

variable {W : Fate} {start now : Nat} {s : Sight} {t u : List Sight}

@[simp] lemma slept_nil : slept [] = 0 := rfl

@[simp] lemma slept_cons (s : Sight) (t : List Sight) : slept (s :: t) = s.lasts + slept t := by
  simp [slept]

@[simp] lemma slept_append (t u : List Sight) : slept (t ++ u) = slept t + slept u := by
  simp [slept]

@[simp] lemma timed_nil : timed now [] = [] := rfl

@[simp] lemma timed_cons (now : Nat) (s : Sight) (t : List Sight) :
    timed now (s :: t) = s.exchange?.toList.map (now, ·) ++ timed (now + s.lasts) t := rfl

lemma timed_append (now : Nat) (t u : List Sight) :
    timed now (t ++ u) = timed now t ++ timed (now + slept t) u := by
  induction t generalizing now with
  | nil => rfl
  | cons s t ih => simp [ih, Nat.add_assoc]

lemma timed_of_asked (now : Nat) (h : ∀ s ∈ t, ∃ x, s = .asked x) :
    timed now t = (exchangesOf t).map (now, ·) := by
  induction t with
  | nil => rfl
  | cons s t ih =>
    obtain ⟨⟨x, rfl⟩, rest⟩ := List.forall_mem_cons.1 h
    exact congrArg ((now, x) :: ·) (ih rest)

lemma slept_of_asked (h : ∀ s ∈ t, ∃ x, s = .asked x) : slept t = 0 := by
  induction t with
  | nil => rfl
  | cons s t ih =>
    obtain ⟨⟨x, rfl⟩, rest⟩ := List.forall_mem_cons.1 h
    rw [slept_cons, ih rest]
    rfl

lemma looksAt_append (now : Nat) (t u : List Sight) :
    looksAt now (t ++ u) = looksAt now t ++ looksAt (now + slept t) u := by
  rw [looksAt, timed_append, List.filter_append]
  rfl

lemma looksAt_of_asked (h : ∀ s ∈ t, ∃ x, s = .asked x)
    (other : ∀ x ∈ exchangesOf t, x.looks = false) : looksAt now t = [] := by
  rw [looksAt, timed_of_asked now h, List.filter_eq_nil_iff]
  rintro _ mem
  obtain ⟨x, hx, rfl⟩ := List.mem_map.1 mem
  simp [other x hx]

lemma mem_timed_iff {time : Nat} {x : Exchange} :
    (time, x) ∈ timed now t ↔ ∃ u, u ++ [.asked x] <+: t ∧ time = now + slept u := by
  induction t generalizing now with
  | nil => exact iff_of_false List.not_mem_nil fun ⟨_, shown, _⟩ => by simp at shown
  | cons s t ih =>
    rw [timed_cons, List.mem_append, ih]
    constructor
    · rintro (first | ⟨u, shown, rfl⟩)
      · cases s with
        | asked y =>
          obtain ⟨rfl, rfl⟩ : time = now ∧ x = y := by simpa [Sight.exchange?] using first
          exact ⟨[], List.prefix_append [_] t, rfl⟩
        | _ => cases first
      · refine ⟨s :: u, List.cons_prefix_cons.2 ⟨rfl, shown⟩, ?_⟩
        rw [slept_cons, Nat.add_assoc]
    · rintro ⟨u, shown, rfl⟩
      cases u with
      | nil =>
        obtain ⟨rfl, -⟩ := List.cons_prefix_cons.1 shown
        exact .inl (List.mem_singleton_self _)
      | cons s' u =>
        obtain ⟨rfl, later⟩ := List.cons_prefix_cons.1 shown
        exact .inr ⟨u, later, by rw [slept_cons, Nat.add_assoc]⟩

namespace Fate

structure Steady (W : Fate) (start : Nat) : Prop where
  clock : ∀ t, W.clock t = start + slept t
  fired : ∀ t, W.fired t = false

lemma Steady.past (h : W.Steady start) (s : Sight) : (W.past s).Steady (start + s.lasts) where
  clock t := by
    have later := h.clock (s :: t)
    rw [slept_cons] at later
    exact later.trans (Nat.add_assoc ..).symm
  fired t := h.fired (s :: t)

lemma Steady.after (h : W.Steady start) (t : List Sight) :
    (W.after t).Steady (start + slept t) := by
  induction t generalizing W start with
  | nil => exact h
  | cons s t ih =>
    rw [slept_cons, ← Nat.add_assoc]
    exact ih (h.past s)

lemma Steady.after_asked (h : W.Steady start) (asked : ∀ s ∈ t, ∃ x, s = .asked x) :
    (W.after t).Steady start := by
  have later := h.after t
  rwa [slept_of_asked asked] at later

lemma Steady.start_eq (h : W.Steady start) : W.clock [] = start := h.clock []

lemma Steady.mem_timed_iff (h : W.Steady start) {time : Nat} {x : Exchange} :
    (time, x) ∈ timed start t ↔ ∃ u, u ++ [.asked x] <+: t ∧ W.clock u = time := by
  rw [LockRegistry.mem_timed_iff]
  exact exists_congr fun u => and_congr_right fun _ => by rw [h.clock, eq_comm]

lemma Steady.mem_looksAt_iff (h : W.Steady start) {time : Nat} {key : LockKey} {found : Bool} :
    (time, ⟨.lockExists key, found⟩) ∈ looksAt start t ↔
      ∃ u, u ++ [.asked ⟨.lockExists key, found⟩] <+: t ∧ W.clock u = time := by
  rw [looksAt, List.mem_filter, h.mem_timed_iff]
  exact and_iff_left rfl

variable [Regex.Engine] {key : LockKey} {given : Nat} {gone : List Sight → Prop}

-- The key is given up at a time, and nobody takes it. What happens at that very time is before or
-- after it; what has been seen tells which.
structure Frees (W : Fate) (key : LockKey) (given : Nat) (gone : List Sight → Prop) : Prop where
  held : ∀ t, ¬ gone t → W.answer t (.lockExists key) = true
  free : ∀ t, gone t → ∃ (s : Store) (now : Timestamp),
    s.locks.contains key = false ∧ ∀ c, W.answer t c = (s.apply now c).1
  stays : ∀ t u, gone t → gone (t ++ u)
  since : ∀ t, gone t → given ≤ W.clock t
  later : ∀ t, given < W.clock t → gone t

lemma Frees.past (h : W.Frees key given gone) (s : Sight) :
    (W.past s).Frees key given fun t => gone (s :: t) where
  held t := h.held (s :: t)
  free t := h.free (s :: t)
  stays t := h.stays (s :: t)
  since t := h.since (s :: t)
  later t := h.later (s :: t)

lemma Frees.after (h : W.Frees key given gone) (t : List Sight) :
    (W.after t).Frees key given fun u => gone (t ++ u) := by
  induction t generalizing W gone with
  | nil => exact h
  | cons s t ih => exact ih (h.past s)

lemma Frees.gone_iff (h : W.Frees key given gone) :
    gone t ↔ W.answer t (.lockExists key) = false := by
  constructor
  · intro left
    obtain ⟨s, now, free, answer⟩ := h.free t left
    exact (answer (.lockExists key)).trans free
  · intro found
    by_contra held
    cases found.symm.trans (h.held t held)

end Fate

namespace Wait

variable {key : LockKey} {poll d n : Nat} {x : List Sight} {r : Except LockError Ending}

def heldAt (key : LockKey) (times : List Nat) : List (Nat × Exchange) :=
  times.map (·, ⟨.lockExists key, true⟩)

inductive Looks (key : LockKey) (poll d now : Nat) :
    Nat → List (Nat × Exchange) → Except LockError Ending → Prop
  | released {k time : Nat} (before : ∀ i < k, now + poll * i < d)
      (last : time = min (now + poll * k) d) :
      Looks key poll d now time
        (heldAt key (List.range' now k poll) ++ [(time, ⟨.lockExists key, false⟩)]) (.ok .released)
  | timedOut {k : Nat} (before : ∀ i < k, now + poll * i < d) (past : d ≤ now + poll * k) :
      Looks key poll d now d (heldAt key (List.range' now k poll ++ [d])) (.ok .timedOut)

section Nap

variable {k : Nat} (before : now < d)
  (early : ∀ i < k, now + min poll (d - now) + poll * i < d)

include early

-- Unless this look is the last but one, the nap is not cut short.
lemma min_nap (more : 0 < k) : min poll (d - now) = poll := by
  have := early 0 more
  omega

lemma range'_nap : now :: List.range' (now + min poll (d - now)) k poll =
    List.range' now (k + 1) poll := by
  rw [List.range'_succ]
  cases k with
  | zero => rfl
  | succ k => rw [min_nap early (Nat.zero_lt_succ k)]

lemma min_tick_nap :
    min (now + min poll (d - now) + poll * k) d = min (now + poll * (k + 1)) d := by
  rw [Nat.mul_succ]
  cases k with
  | zero => omega
  | succ k =>
    rw [min_nap early (Nat.zero_lt_succ k)]
    omega

include before

lemma tick_lt_of_nap : ∀ i < k + 1, now + poll * i < d := by
  intro i within
  cases i with
  | zero => exact before
  | succ i =>
    have within := Nat.lt_of_succ_lt_succ within
    have tick := early i within
    rw [min_nap early (Nat.zero_lt_of_lt within)] at tick
    rw [Nat.mul_succ]
    omega

end Nap

lemma Looks.later {time : Nat} {l : List (Nat × Exchange)} (before : now < d)
    (h : Looks key poll d (now + min poll (d - now)) time l r) :
    Looks key poll d now time ((now, ⟨.lockExists key, true⟩) :: l) r := by
  cases h with
  | released early last =>
    rw [min_tick_nap early] at last
    have looks : Looks key poll d now time _ (.ok .released) :=
      .released (tick_lt_of_nap before early) last
    rwa [← range'_nap early] at looks
  | @timedOut k early past =>
    have reached : d ≤ now + poll * (k + 1) := by
      have := min_tick_nap early
      omega
    have looks : Looks key poll d now d _ (.ok .timedOut) :=
      .timedOut (tick_lt_of_nap before early) reached
    rwa [← range'_nap early] at looks

lemma Looks.looks {time : Nat} {l : List (Nat × Exchange)} (h : Looks key poll d now time l r) :
    ∀ x ∈ l, x.2.looks = true := by
  intro x hx
  cases h with
  | released =>
    rcases List.mem_append.1 hx with hx | hx
    · obtain ⟨_, -, rfl⟩ := List.mem_map.1 hx
      rfl
    · rw [List.mem_singleton.1 hx]
      rfl
  | timedOut =>
    obtain ⟨_, -, rfl⟩ := List.mem_map.1 hx
    rfl

lemma Looks.not_error {time : Nat} {l : List (Nat × Exchange)} {e : LockError} :
    ¬ Looks key poll d now time l (.error e) := nofun

lemma Pause.timed {fired : Bool} (pause : Pause poll (some d) x n) (now : Nat) (t : List Sight) :
    timed now (finding key ++ x ++ .nap n fired :: t) =
      (now, ⟨.lockExists key, true⟩) :: timed (now + n) t := by
  cases pause
  simp [finding, Sight.exchange?, Sight.lasts]

lemma Pause.slept (pause : Pause poll (some d) x n) (key : LockKey) (fired : Bool) :
    slept (finding key ++ x ++ [.nap n fired]) = n := by
  cases pause
  simp [finding, Sight.lasts]

lemma Pause.length (pause : Pause poll (some d) x n) (h : W.Steady now)
    (plays : (W.after (finding key)).Plays x) : now < d ∧ n = min poll (d - now) := by
  cases pause with
  | @bounded _ time before =>
    have clock : time = now := plays.1.trans (h.after (finding key)).start_eq
    exact ⟨clock ▸ before, clock ▸ rfl⟩

lemma Rounds.looks (h : Rounds key poll (some d) t r) (steady : W.Steady now) (plays : W.Plays t)
    (early : now ≤ d) : Looks key poll d now (now + slept t) (timed now t) r := by
  induction h generalizing W now with
  | fired => cases plays.1.trans (steady.fired [])
  | released => exact .released (k := 0) nofun (Nat.min_eq_left early).symm
  | @timedOut d' time bound past =>
    cases bound
    obtain ⟨-, read⟩ := Fate.plays_append.1 plays
    have clock : time = now := read.1.trans (steady.after (finding key)).start_eq
    obtain rfl : now = d := by omega
    exact .timedOut (k := 0) nofun (Nat.le_refl _)
  | @woken x n pause =>
    obtain ⟨-, woken⟩ := Fate.plays_append.1 plays
    cases woken.1.trans ((steady.after _).fired [])
  | @again x t n r pause rest ih =>
    obtain ⟨begun, napped⟩ := Fate.plays_append.1 plays
    obtain ⟨-, paused⟩ := Fate.plays_append.1 begun
    obtain ⟨before, rfl⟩ := pause.length steady paused
    have steady' := (steady.after (finding key ++ x)).past (.nap (min poll (d - now)) false)
    have sleeps := pause.slept key false
    rw [slept_append, slept_cons, slept_nil, Nat.add_zero] at sleeps
    rw [Nat.add_assoc, sleeps] at steady'
    have looks := ih steady' napped.2 (by omega)
    rw [pause.timed, slept_append, slept_cons, ← Nat.add_assoc (slept _), sleeps, ← Nat.add_assoc]
    exact looks.later before

def schedule (start p T : Nat) : List Nat :=
  List.range' start ((1000 * T) ⌈/⌉ p) (p * 1000000) ++ [start + T * 1000000000]

inductive Punctual (key : LockKey) (times : List Nat) : List (Nat × Exchange) → Ending → Prop
  | released {l : List Nat} {time : Nat} (on : l ++ [time] <+: times) :
      Punctual key times (heldAt key l ++ [(time, ⟨.lockExists key, false⟩)]) .released
  | timedOut : Punctual key times (heldAt key times) .timedOut

section Punctual

variable {p T k time : Nat} {l : List (Nat × Exchange)} {e : Ending}

lemma lt_ticks (positive : 0 < p) :
    k < (1000 * T) ⌈/⌉ p ↔ start + p * 1000000 * k < start + T * 1000000000 := by
  have scaled : p * 1000000 * k = p * k * 1000000 := Nat.mul_right_comm p 1000000 k
  rw [← Nat.not_le, ceilDiv_le_iff_le_mul positive, scaled]
  omega

lemma range'_le {m : Nat} (h : k ≤ m) (start step : Nat) :
    List.range' start k step <+: List.range' start m step := by
  obtain ⟨m, rfl⟩ := Nat.exists_eq_add_of_le h
  exact ⟨_, List.range'_append⟩

lemma Looks.punctual (h : Looks key (p * 1000000) (start + T * 1000000000) start time l (.ok e))
    (positive : 0 < p) : Punctual key (schedule start p T) l e := by
  have within {k : Nat}
      (before : ∀ i < k, start + p * 1000000 * i < start + T * 1000000000) :
      k ≤ (1000 * T) ⌈/⌉ p := by
    by_contra more
    have last := before ((1000 * T) ⌈/⌉ p) (Nat.lt_of_not_le more)
    exact absurd ((lt_ticks positive).2 last) (Nat.lt_irrefl _)
  cases h with
  | @released k _ before last =>
    refine .released ?_
    rcases Nat.lt_or_eq_of_le (within before) with more | rfl
    · rw [last, Nat.min_eq_left ((lt_ticks positive).1 more).le, ← List.range'_concat]
      exact (range'_le more _ _).trans (List.prefix_append _ _)
    · have past : start + T * 1000000000 ≤ start + p * 1000000 * ((1000 * T) ⌈/⌉ p) := by
        by_contra more
        exact Nat.lt_irrefl _ ((lt_ticks positive).2 (Nat.lt_of_not_le more))
      rw [last, Nat.min_eq_right past]
      exact List.prefix_rfl
  | @timedOut k before past =>
    have last : (1000 * T) ⌈/⌉ p ≤ k := by
      by_contra more
      have early : start + p * 1000000 * k < start + T * 1000000000 :=
        (lt_ticks positive).1 (Nat.lt_of_not_le more)
      omega
    rw [Nat.le_antisymm (within before) last]
    exact .timedOut

end Punctual

section Polls

variable [Regex.Engine]

-- What becomes of a wait whose key is given up, and how soon, unless a look came at that very time
-- and before it.
structure Notices (W : Fate) (key : LockKey) (start p T : Nat) (t : List Sight)
    (l : List (Nat × Exchange)) (e : Ending) (given : Nat) (gone : List Sight → Prop) : Prop where
  told : ∀ u found, u ++ [.asked ⟨.lockExists key, found⟩] <+: t → (found = false ↔ gone u)
  released_iff : e = .released ↔
    ∃ u found, u ++ [.asked ⟨.lockExists key, found⟩] <+: t ∧ gone u
  due : (∀ u ≠ [], start + T * 1000000000 ≤ W.clock u → gone u) → e = .released
  prompt : start ≤ given → e = .released →
    ∃ times time, l = heldAt key times ++ [(time, ⟨.lockExists key, false⟩)] ∧
      (∀ s ∈ times, s ≤ given) ∧ given ≤ time ∧ time ≤ given + p * 1000000 ∧
      (given ∉ times → time < given + p * 1000000)

structure Polls (W : Fate) (key : LockKey) (start p T : Nat) (t : List Sight)
    (l : List (Nat × Exchange)) (e : Ending) : Prop where
  punctual : Punctual key (schedule start p T) l e
  held : (∀ u, W.clock u ≤ start + T * 1000000000 → W.answer u (.lockExists key) = true) →
    e = .timedOut
  freed : ∀ given gone, W.Frees key given gone → Notices W key start p T t l e given gone

end Polls

section Ends

variable {p T time : Nat} {l : List (Nat × Exchange)} {e : Ending}

lemma Looks.le_deadline (h : Looks key poll d start time l r) : time ≤ d := by
  cases h with
  | released before last => exact last ▸ Nat.min_le_right _ _
  | timedOut => exact Nat.le_refl _

lemma Looks.eq_deadline (h : Looks key poll d start time l (.ok .timedOut)) : time = d := by
  cases h
  rfl

lemma Looks.mem_last (h : Looks key poll d start time l (.ok .released)) :
    (time, ⟨.lockExists key, false⟩) ∈ l := by
  cases h with
  | released => exact List.mem_append_right _ (List.mem_singleton_self _)

lemma Looks.prompt {given : Nat} (h : Looks key poll d start time l (.ok .released))
    (positive : 0 < poll) (after : start ≤ given)
    (early : ∀ t, (t, ⟨.lockExists key, true⟩) ∈ l → t ≤ given) :
    ∃ times, l = heldAt key times ++ [(time, ⟨.lockExists key, false⟩)] ∧
      (∀ t ∈ times, t ≤ given) ∧ time ≤ given + poll ∧ (given ∉ times → time < given + poll) := by
  cases h with
  | @released k _ before last =>
    have early (t : Nat) (mem : t ∈ List.range' start k poll) : t ≤ given :=
      early t (List.mem_append_left _ (List.mem_map_of_mem mem))
    refine ⟨_, rfl, early, ?_⟩
    cases k with
    | zero => omega
    | succ k =>
      -- the look before was at most at that time
      have mem : start + poll * k ∈ List.range' start (k + 1) poll :=
        List.mem_range'.2 ⟨k, Nat.lt_succ_self k, rfl⟩
      have one := early _ mem
      rw [Nat.mul_succ] at last
      refine ⟨by omega, fun absent => ?_⟩
      have apart : start + poll * k ≠ given := fun same => absent (same ▸ mem)
      omega

section Shown

variable [Regex.Engine] {given : Nat} {gone : List Sight → Prop}

lemma Looks.notices (h : Looks key (p * 1000000) (start + T * 1000000000) start time l (.ok e))
    (positive : 0 < p) (plays : W.Plays t)
    (shown : ∀ time found, (time, ⟨.lockExists key, found⟩) ∈ l ↔
      ∃ u, u ++ [.asked ⟨.lockExists key, found⟩] <+: t ∧ W.clock u = time)
    (begun : ∀ found, ¬ [.asked ⟨.lockExists key, found⟩] <+: t)
    (frees : W.Frees key given gone) : Notices W key start p T t l e given gone := by
  have told (u : List Sight) (found : Bool) (look : u ++ [.asked ⟨.lockExists key, found⟩] <+: t) :
      found = false ↔ gone u := by
    have reply : found = W.answer u (.lockExists key) := plays.reply look
    rw [frees.gone_iff, reply]
  refine { told, released_iff := ⟨?_, ?_⟩, due := ?_, prompt := ?_ }
  · rintro rfl
    obtain ⟨u, look, -⟩ := (shown time false).1 h.mem_last
    exact ⟨u, false, look, (told u false look).1 rfl⟩
  · rintro ⟨u, found, look, left⟩
    obtain rfl := (told u found look).2 left
    have mem := (shown _ _).2 ⟨u, look, rfl⟩
    cases h with
    | released => rfl
    | timedOut =>
      obtain ⟨_, -, same⟩ := List.mem_map.1 mem
      cases same
  · intro due
    cases h with
    | released => rfl
    | timedOut =>
      obtain ⟨u, look, clock⟩ := (shown (start + T * 1000000000) true).1
        (List.mem_map_of_mem (List.mem_append_right _ (List.mem_singleton_self _)))
      have some : u ≠ [] := fun first => begun true (by rwa [first] at look)
      cases (told u true look).2 (due u some clock.ge)
  · rintro after rfl
    have early (t : Nat) (mem : (t, ⟨.lockExists key, true⟩) ∈ l) : t ≤ given := by
      obtain ⟨u, look, rfl⟩ := (shown _ _).1 mem
      by_contra late
      cases (told u true look).2 (frees.later u (Nat.lt_of_not_le late))
    obtain ⟨times, split, before, near, nearer⟩ := h.prompt (by omega) after early
    refine ⟨times, time, split, before, ?_, near, nearer⟩
    obtain ⟨u, look, rfl⟩ := (shown time false).1 h.mem_last
    exact frees.since u ((told u false look).1 rfl)

lemma Looks.polls (h : Looks key (p * 1000000) (start + T * 1000000000) start time l (.ok e))
    (positive : 0 < p) (plays : W.Plays t)
    (shown : ∀ time found, (time, ⟨.lockExists key, found⟩) ∈ l ↔
      ∃ u, u ++ [.asked ⟨.lockExists key, found⟩] <+: t ∧ W.clock u = time)
    (begun : ∀ found, ¬ [.asked ⟨.lockExists key, found⟩] <+: t) :
    Polls W key start p T t l e where
  punctual := h.punctual positive
  held all := by
    have early := h.le_deadline
    cases e with
    | released =>
      obtain ⟨u, look, rfl⟩ := (shown time false).1 h.mem_last
      cases (plays.reply look).trans (all u early)
    | timedOut => rfl
  freed _ _ frees := h.notices positive plays shown begun frees

end Shown

lemma exists_looks (key : LockKey) (steady : W.Steady start) {timeout : Nat} (positive : 0 < poll)
    (fits : start + timeout < clockLimit) :
    ∃ l e, W.Ends action { key := key, timeout := timeout, poll := poll }
        (.clock start :: l) (.ok e) ∧
      Looks key poll (start + timeout) start (start + slept l) (timed start l) (.ok e) := by
  have bound : deadline? start timeout = some (start + timeout) := if_pos fits
  have read := steady.past (.clock start)
  have nearer (m : Nat) (W : Fate) (x : List Sight) (n : Nat)
      (h : ∃ now, W.Steady now ∧ m = start + timeout - now)
      (pause : Pause poll (some (start + timeout)) x n)
      (plays : W.Plays (finding key ++ x ++ [.nap n false])) :
      ∃ m' < m, ∃ now, (W.after (finding key ++ x ++ [.nap n false])).Steady now ∧
        m' = start + timeout - now := by
    obtain ⟨now, steady, rfl⟩ := h
    obtain ⟨begun, -⟩ := Fate.plays_append.1 plays
    obtain ⟨before, rfl⟩ := pause.length steady (Fate.plays_append.1 begun).2
    have later := steady.after
      (finding key ++ x ++ [.nap (min poll (start + timeout - now)) false])
    rw [pause.slept] at later
    exact ⟨_, by omega, _, later, rfl⟩
  obtain ⟨l, r, rounds, plays⟩ := exists_rounds key poll (some (start + timeout)) _ nearer _ _
    ⟨_, read, rfl⟩
  have looks := rounds.looks read plays (Nat.le_add_right _ _)
  cases r with
  | error e => exact (looks.not_error).elim
  | ok e =>
    refine ⟨l, e, ends_iff_rounds.2 ⟨l, ?_, ?_, ?_⟩, looks⟩
    · rw [steady.start_eq]
    · rwa [steady.start_eq, bound]
    · rwa [steady.start_eq]

end Ends

end Wait

end LockRegistry
