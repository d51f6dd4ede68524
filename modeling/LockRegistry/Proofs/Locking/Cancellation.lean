import LockRegistry.Proofs.Locking.Schedule
import LockRegistry.Proofs.Sessions.Calm
import LockRegistry.Regex.Runner

/-! What the token of a caller can do: it ends a wait at once, and does nothing to a request that
does not come to wait. -/

namespace LockRegistry

def Sight.fired? : Sight → Option Bool
  | token fired | nap _ fired => some fired
  | _ => none

namespace Fate

variable {W : Fate} {m : Nat} {t l l' : List Sight} {s : Sight} {fired : Bool}

def FiresAt (W : Fate) (m : Nat) : Prop := ∀ t, W.fired t = decide (m ≤ t.length)

lemma FiresAt.past (h : W.FiresAt m) (s : Sight) : (W.past s).FiresAt (m - 1) := by
  intro t
  refine (h (s :: t)).trans (decide_eq_decide.2 ?_)
  rw [List.length_cons]
  omega

lemma FiresAt.after (h : W.FiresAt m) (t : List Sight) : (W.after t).FiresAt (m - t.length) := by
  induction t generalizing W m with
  | nil => exact h
  | cons s t ih =>
    have later := ih (h.past s)
    rwa [Nat.sub_sub, Nat.add_comm] at later

lemma FiresAt.shown (h : W.FiresAt m) (plays : W.Plays (l ++ s :: l'))
    (hs : s.fired? = some fired) :
    fired = decide (m ≤ l.length) := by
  have shows : fired = (W.after l).fired [] := by
    obtain ⟨-, shows, -⟩ := plays_append.1 plays
    cases s with
    | token | nap =>
      cases hs
      exact shows
    | _ => cases hs
  rw [shows, h.after l []]
  exact decide_eq_decide.2 (by rw [List.length_nil]; omega)

end Fate

namespace Wait

variable {W : Fate} {key : LockKey} {timeout poll m n : Nat} {deadline : Option Nat}
  {x t l l' : List Sight} {r : Except LockError Ending} {e : Exchange}

lemma Pause.token_before {fired : Bool} (pause : Pause poll deadline x n)
    (h : finding key ++ x ++ [.nap n fired] = l ++ .asked e :: l') : l = [.token false] := by
  cases pause with
  | unbounded =>
    rcases l with _ | ⟨a, _ | ⟨b, _ | ⟨c, _ | ⟨d, l⟩⟩⟩⟩ <;> cases h
    rfl
  | bounded =>
    rcases l with _ | ⟨a, _ | ⟨b, _ | ⟨c, _ | ⟨d, _ | ⟨f, l⟩⟩⟩⟩⟩ <;> cases h
    rfl

namespace Rounds

lemma token_before (h : Rounds key poll deadline t r) (split : t = l ++ .asked e :: l') :
    ∃ l₀, l = l₀ ++ [.token false] := by
  induction h generalizing l with
  | fired => rcases l with _ | ⟨a, _ | ⟨b, l⟩⟩ <;> cases split
  | released =>
    rcases l with _ | ⟨a, _ | ⟨b, _ | ⟨c, l⟩⟩⟩ <;> cases split
    exact ⟨[], rfl⟩
  | timedOut =>
    rcases l with _ | ⟨a, _ | ⟨b, _ | ⟨c, _ | ⟨d, l⟩⟩⟩⟩ <;> cases split
    exact ⟨[], rfl⟩
  | woken pause => exact ⟨[], pause.token_before split⟩
  | @again x t n r pause rest ih =>
    rw [← List.singleton_append, ← List.append_assoc] at split
    rcases split_of_append split with ⟨m, inside, -⟩ | ⟨m, rfl, later⟩
    · exact ⟨[], pause.token_before inside⟩
    · obtain ⟨l₀, rfl⟩ := ih later
      exact ⟨_, (List.append_assoc ..).symm⟩

lemma interrupted (h : Rounds key poll deadline t r) (mem : .nap n true ∈ t) :
    r = .error .cancelled := by
  induction h with
  | fired | woken => rfl
  | released | timedOut => simp [finding] at mem
  | again pause rest ih =>
    cases pause <;> exact ih (by simpa [finding] using mem)

lemma begins (h : Rounds key poll deadline t r) : ∃ fired u, t = .token fired :: u := by
  cases h with
  | fired => exact ⟨true, [], rfl⟩
  | _ => exact ⟨false, _, rfl⟩

lemma stopped (h : Rounds key poll deadline (.token true :: t) r) : r = .error .cancelled := by
  generalize hl : Sight.token true :: t = l at h
  cases h with
  | fired => rfl
  | _ => cases hl

end Rounds

structure Stops (m : Nat) (t : List Sight) (r : Except LockError Ending) : Prop where
  asks : ∀ l x l', t = l ++ .asked x :: l' → l.length ≤ m
  naps : ∀ l n l', t = l ++ .nap n false :: l' → l.length < m
  cancelled : m = 0 ∨ (∃ l n fired l', t = l ++ .nap n fired :: l' ∧ l.length = m) →
    r = .error .cancelled

lemma exists_ends (fires : W.FiresAt m) (key : LockKey) (timeout poll : Nat) :
    ∃ t r, W.Ends action { key := key, timeout := timeout, poll := poll } t r := by
  have nearer (m : Nat) (W : Fate) (x : List Sight) (n : Nat) (fires : W.FiresAt m)
      (plays : W.Plays (finding key ++ x ++ [.nap n false])) :
      ∃ m' < m, (W.after (finding key ++ x ++ [.nap n false])).FiresAt m' := by
    have asleep : (finding key ++ x).length < m := by
      have quiet := fires.shown plays rfl
      simpa using quiet
    refine ⟨_, ?_, fires.after _⟩
    rw [List.length_append, List.length_singleton]
    omega
  obtain ⟨u, r, rounds, plays⟩ := exists_rounds key poll (deadline? (W.clock []) timeout)
    (fun m W => W.FiresAt m) (fun m W x n fires _ => nearer m W x n fires) (m - 1)
    (W.past (.clock (W.clock []))) (fires.past _)
  exact ⟨_, r, ends_iff_rounds.2 ⟨u, rfl, rounds, plays⟩⟩

lemma stops_of_ends (fires : W.FiresAt m)
    (h : W.Ends action { key := key, timeout := timeout, poll := poll } t r) : Stops m t r := by
  have shown {l l' : List Sight} {s : Sight} {fired : Bool} (split : t = l ++ s :: l')
      (hs : s.fired? = some fired) : fired = decide (m ≤ l.length) :=
    fires.shown (split ▸ h.plays) hs
  obtain ⟨u, rfl, rounds, plays⟩ := ends_iff_rounds.1 h
  constructor
  · intro l x l' split
    cases l with
    | nil => cases split
    | cons a l =>
      obtain ⟨rfl, later⟩ := List.cons.inj split
      obtain ⟨l₀, rfl⟩ := rounds.token_before later
      have again : Sight.clock (W.clock []) :: u =
          (.clock (W.clock []) :: l₀) ++ .token false :: .asked x :: l' := split.trans (by simp)
      have quiet := shown again rfl
      simp only [List.length_cons, List.length_append, List.length_nil, false_eq_decide_iff]
        at quiet ⊢
      omega
  · intro l n l' split
    have quiet := shown split rfl
    simpa using quiet
  · rintro (rfl | ⟨l, n, fired, l', split, rfl⟩)
    · obtain ⟨fired, u', rfl⟩ := rounds.begins
      obtain rfl : fired = true := shown (l := [.clock (W.clock [])]) rfl rfl
      exact rounds.stopped
    · obtain rfl : fired = true := by simpa using shown split rfl
      cases l with
      | nil => cases split
      | cons a l =>
        obtain ⟨-, rfl⟩ := List.cons.inj split
        exact rounds.interrupted (List.mem_append_right _ List.mem_cons_self)

end Wait

namespace Locking

variable {config : LockConfig} {r : LockRequest} {caller : Option String} {lockId : String}
  {l : List Exchange} {t : List Sight} {o : Except LockError AcquireOutcome}

lemma looks_of_mem_looks {key : LockKey} {n : Nat} {x : Exchange} (h : x ∈ looks key n) :
    x.looks = true := by
  rw [List.eq_of_mem_replicate h]
  rfl

lemma awaitHolder_not_unhindered {lock : NewLock} {timeout : Nat}
    (h : (awaitHolder config lock timeout).Sees t o) :
    o ≠ .ok .revokeDenied ∧ ∀ e, o ≠ .error (.argument e) := by
  have awaits := awaitHolder_makes (runs_iff.2 ⟨t, h, rfl⟩)
  generalize exchangesOf t = l at awaits
  cases awaits with
  | cancelled => exact ⟨nofun, nofun⟩
  | timedOut => exact ⟨nofun, nofun⟩
  | released n again => cases again <;> exact ⟨nofun, nofun⟩

variable [Regex.Engine]

lemma Requests.cancelled (h : Requests r caller lockId l (.error .cancelled)) :
    ∃ asks stamps user n,
      l = ⟨.insertLock (newLock r lockId), none⟩ :: asks ++ (stamps ++ looks r.key n) ∧
        Asks r.key caller asks (.ok true) ∧ Stamps r.key user stamps := by
  generalize ho : Except.error LockError.cancelled = o at h
  cases h with
  | revoking revoke h =>
    cases h with
    | failed asks =>
      cases ho
      cases asks
    | @allowed asks stamps _ user _ asked name stamp wait =>
      subst ho
      cases wait with
      | cancelled n => exact ⟨asks, stamps, user, n, by simp, asked, stamp⟩
    | _ => cases ho
  | _ => cases ho

structure Withdrawn (l : List Exchange) : Prop where
  inserts : ∀ x ∈ l, x.inserts = false
  marked : ∀ l₁ x l₂, l = l₁ ++ x :: l₂ → x.marks = true → ∀ y ∈ l₂, y.looks = true

lemma Requests.withdrawn (h : Requests r caller lockId l (.error .cancelled)) : Withdrawn l where
  inserts x hx := by
    have nothing := List.countP_eq_zero.1 (h.not_inserts fun _ => nofun) x hx
    simpa using nothing
  marked l₁ x l₂ split hx := by
    obtain ⟨asks, stamps, user, n, rfl, asked, stamp⟩ := h.cancelled
    have other {m : List Exchange} (hm : ∀ y ∈ m, y.marks = false) : x ∉ m := fun mem => by
      cases hx.symm.trans (hm x mem)
    have waits : x ∉ looks r.key n := other fun y hy => by
      rw [List.eq_of_mem_replicate hy]
      rfl
    have first : x ∉ ⟨.insertLock (newLock r lockId), none⟩ :: asks :=
      other (List.forall_mem_cons.2 ⟨rfl, fun _ => asked.not_marks⟩)
    obtain ⟨m, rfl⟩ := prefix_of_append_eq split first
    rw [List.append_assoc _ m, List.append_cancel_left_eq] at split
    obtain ⟨holder, stamped, rfl, rfl⟩ := stamp.marks split hx waits
    cases stamp with
    | free => cases (List.cons.inj split).1
    | found =>
      simp only [List.cons_append, List.nil_append, List.cons.injEq] at split
      obtain ⟨-, -, rfl⟩ := split
      exact fun y => looks_of_mem_looks

inductive Unhindered (r : LockRequest) (lockId : String) :
    List Exchange → Option (Except LockError AcquireOutcome) → Prop
  | plain {l : List Exchange} {o : Option (Except LockError AcquireOutcome)}
      (plain : r.revokeExisting = false) : Unhindered r lockId l o
  | free {l : List Exchange} {o : Option (Except LockError AcquireOutcome)} (row : Lock) :
      Unhindered r lockId (⟨.insertLock (newLock r lockId), some row⟩ :: l) o
  | denied {l : List Exchange} : Unhindered r lockId l (some (.ok .revokeDenied))
  | refused {l : List Exchange} {e : ArgumentError} :
      Unhindered r lockId l (some (.error (.argument e)))

lemma asked_of_unhindered {t' : List Sight} (h : (request config r caller lockId).Sees (t ++ t') o)
    {o' : Option (Except LockError AcquireOutcome)} (ended : ∀ v, o' = some v → v = o)
    (unhindered : Unhindered r lockId (exchangesOf t) o') : ∀ s ∈ t, ∃ x, s = .asked x := by
  rcases request_sees h with ⟨asked, -⟩ | ⟨revoke, timeout, t₀, t₁, -, split, -, awaits⟩
  · exact fun s hs => asked s (List.mem_append_left _ hs)
  · obtain ⟨allowed, well⟩ := awaitHolder_not_unhindered awaits
    have first : exchangesOf t ++ exchangesOf t' =
        ⟨.insertLock (newLock r lockId), none⟩ :: exchangesOf (t₀ ++ t₁) := by
      rw [exchangesOf, exchangesOf, ← List.filterMap_append, split]
      rfl
    generalize exchangesOf t = l at unhindered first
    cases unhindered with
    | plain plain => cases revoke.symm.trans plain
    | free row => cases first
    | denied => exact absurd (ended _ rfl).symm allowed
    | refused => exact absurd (ended _ rfl).symm (well _)

end Locking

namespace Sessions

open Locking (Unhindered Withdrawn newLock request)

variable [Regex.Engine]

structure Abandons {ι : Type} (j : List (Entry ι)) (i : ι) (r : LockRequest)
    (caller : Option String) (lockId : String) : Prop where
  inserts : ∀ m, ¬ Puts j i m r lockId
  effects : ∀ n e, j[n]? = some e → e.session = i →
    Store.empty.instant j (n + 1) = Store.empty.instant j n ∨ Marks j i n r.key caller
  stamp : ∀ g n e, Marks j i g r.key caller → j[n]? = some e → e.session = i → n ≠ g →
    Store.empty.instant j (n + 1) = Store.empty.instant j n

variable {ι : Type} [DecidableEq ι] {calls : ι → Operation} {h h' : List (Turn ι)} {i : ι}
  {config : LockConfig} {r : LockRequest} {caller : Option String} {lockId : String}

lemma abandons_of_cancelled (own : calls i = .request config r caller lockId)
    (ended : ((start calls).run h).result? i = some (.error .cancelled)) :
    Abandons ((start calls).journal h) i r caller lockId := by
  obtain ⟨o, same, requests⟩ := requests_of_result? own ended
  obtain rfl : o = .error .cancelled := by
    cases o <;> cases same
    rfl
  obtain ⟨nothing, -⟩ := leaves_of_requests requests
  have effects (n : Nat) (e : Entry ι) (he : ((start calls).journal h)[n]? = some e)
      (mine : e.session = i) :
      Store.empty.instant ((start calls).journal h) (n + 1) =
          Store.empty.instant ((start calls).journal h) n ∨
        Marks ((start calls).journal h) i n r.key caller := by
    rcases effect_of_own own he mine with idle | marks | puts
    · exact .inl idle
    · exact .inr marks
    · exact absurd puts (nothing n)
  refine ⟨nothing, effects, fun g n e marks he mine apart => ?_⟩
  exact (effects n e he mine).resolve_right fun again => apart (marks_unique own again marks)

lemma run_eq_of_unhindered (own : calls i = .request config r caller lockId)
    (same : h'.map (Turn.calm i) = h.map (Turn.calm i))
    {o : Option (Except LockError AcquireOutcome)}
    (ended : ((start calls).run h).result? i = o.map (Except.map .outcome))
    (unhindered : Unhindered r lockId (exchanges i .empty ((start calls).journal h)) o) :
    (start calls).run h' = (start calls).run h := by
  have op : (start calls).op i = .outcome <$> request config r caller lockId :=
    congrArg Operation.op own
  have asks : exchangesOf ((start calls).sights i h) =
      exchanges i .empty ((start calls).journal h) := exchangesOf_sights _ _ _
  rw [← asks] at unhindered
  refine run_congr same ?_
  cases o with
  | none =>
    obtain ⟨l, v, sees⟩ := (start calls).exists_sees h i
    obtain ⟨v', sees', -⟩ := Op.Sees.map (op ▸ sees)
    have running (o : Except LockError AcquireOutcome) : none = some o → o = v' := nofun
    exact Locking.asked_of_unhindered sees' running unhindered
  | some o =>
    obtain ⟨v', sees', value⟩ := Op.Sees.map (op ▸ sees_of_result? ended)
    have outcome : o = v' := by
      cases o <;> cases v' <;> cases value <;> rfl
    rw [← List.append_nil ((start calls).sights i h)] at sees'
    refine Locking.asked_of_unhindered sees' ?_ unhindered
    rintro _ ⟨⟩
    exact outcome

end Sessions

namespace Locking

open Sessions (Abandons start)

variable [Regex.Engine]

/-- From the moment at which its token fires, a wait neither looks at its key nor sleeps. A request
that has nothing to wait for takes no notice. -/
theorem cancellation :
    (∀ (W : Fate) (m : Nat) (key : LockKey) (timeout poll : Nat), W.FiresAt m →
      ∃ t r, let w : Wait := { key, timeout, poll }
        W.Ends Wait.action w t r ∧ (∀ t' r', W.Ends Wait.action w t' r' → t' = t ∧ r' = r) ∧
          Wait.Stops m t r) ∧
    (∀ config r caller lockId l,
      (request config r caller lockId).Makes l (.error .cancelled) → Withdrawn l) ∧
    (∀ config r caller lockId t o, (request config r caller lockId).Sees t o →
      Unhindered r lockId (exchangesOf t) (some o) → ∀ s ∈ t, ∃ x, s = .asked x) ∧
    ∀ {ι : Type} [DecidableEq ι] (calls : ι → Operation) (h : List (Turn ι)) (i : ι)
      (config : LockConfig) (r : LockRequest) (caller : Option String) (lockId : String),
      calls i = .request config r caller lockId →
        (((start calls).run h).result? i = some (.error .cancelled) →
          Abandons ((start calls).journal h) i r caller lockId) ∧
        ∀ h' o, h'.map (Turn.calm i) = h.map (Turn.calm i) →
          ((start calls).run h).result? i = o.map (Except.map .outcome) →
            Unhindered r lockId (exchanges i .empty ((start calls).journal h)) o →
              (start calls).run h' = (start calls).run h := by
  refine ⟨fun W m key timeout poll fires => ?_, fun config r caller lockId l makes => ?_,
    fun config r caller lockId t o sees unhindered => ?_,
    fun calls h i config r caller lockId own => ⟨Sessions.abandons_of_cancelled own, ?_⟩⟩
  · obtain ⟨t, r, ends⟩ := Wait.exists_ends fires key timeout poll
    exact ⟨t, r, ends, fun t' r' ends' => ends'.unique ends, Wait.stops_of_ends fires ends⟩
  · exact (request_makes makes).withdrawn
  · rw [← List.append_nil t] at sees
    exact asked_of_unhindered sees (fun _ same => (Option.some.inj same).symm) unhindered
  · exact fun h' o same ended => Sessions.run_eq_of_unhindered own same ended

end Locking

namespace Locking

open Sessions (Abandons start)

attribute [local instance] Regex.runner

def dozing : Fate where
  answer t c := ((if t.length < 4 then occupied else vacant).apply (.ofNanos 0) c).1
  clock _ := 7
  fired t := decide (4 ≤ t.length)

lemma dozing_ends :
    dozing.Ends Wait.action { key := queuedKey, timeout := 300, poll := 250 }
      (.clock 7 :: (Wait.finding queuedKey ++ [.clock 7] ++ [.nap 250 true]))
      (.error .cancelled) := by
  have rounds : Wait.Rounds queuedKey 250 (Wait.deadline? 7 300)
      (Wait.finding queuedKey ++ [.clock 7] ++ [.nap 250 true]) (.error .cancelled) :=
    .woken (.bounded (d := 307) (by decide))
  have plays : (dozing.past (.clock 7)).Plays
      (Wait.finding queuedKey ++ [.clock 7] ++ [.nap 250 true]) :=
    ⟨rfl, rfl, rfl, rfl, trivial⟩
  exact Wait.ends_iff_rounds.2 ⟨_, rfl, rounds, plays⟩

theorem cancellation_standoff :
    let j := (start Sessions.standoff).journal Sessions.standoffTurns
    Wait.Stops 4 (.clock 7 :: (Wait.finding queuedKey ++ [.clock 7] ++ [.nap 250 true]))
        (.error .cancelled) ∧
      Withdrawn (exchanges 2 .empty j) ∧
      Abandons j 2 Sessions.standoffRequest (some " adm ") "b" ∧
      (start Sessions.standoff).run (Sessions.standoffTurns.map (Turn.calm 1)) =
        (start Sessions.standoff).run Sessions.standoffTurns := by
  intro j
  obtain ⟨waits, requests, -, sessions⟩ := cancellation
  obtain ⟨t, r, ends, unique, stops⟩ := waits dozing 4 queuedKey 300 250 fun _ => rfl
  obtain ⟨rfl, rfl⟩ := unique _ _ dozing_ends
  have gaveUp : ((start Sessions.standoff).run Sessions.standoffTurns).result? 2 =
      some (.error .cancelled) := rfl
  obtain ⟨o, same, makes⟩ := Sessions.makes_of_map (f := .outcome)
    (rfl : (Sessions.standoff 2).op = .outcome <$> request _ _ _ _) gaveUp
  obtain rfl : o = .error .cancelled := by
    cases o <;> cases same
    rfl
  obtain ⟨abandons, -⟩ := sessions _ _ _ _ _ _ _ (rfl : Sessions.standoff 2 = .request _ _ _ _)
  obtain ⟨-, same⟩ := sessions _ Sessions.standoffTurns _ _ _ _ _
    (rfl : Sessions.standoff 1 = .request _ _ _ _)
  exact ⟨stops, requests _ _ _ _ _ makes, abandons gaveUp,
    same _ (some (.ok (.acquired "a"))) rfl rfl (.plain rfl)⟩

end Locking

end LockRegistry
