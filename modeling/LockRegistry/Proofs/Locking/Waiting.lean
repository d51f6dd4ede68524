import LockRegistry.Proofs.Locking.Courses
import LockRegistry.Regex.Runner

/-! A wait ends with a release only when it has just seen one, and never times out early. -/

namespace LockRegistry

lemma split_of_append {α : Type} {p t l l' : List α} {a : α} (h : p ++ t = l ++ a :: l') :
    (∃ m, p = l ++ a :: m ∧ l' = m ++ t) ∨ ∃ m, l = p ++ m ∧ t = m ++ a :: l' := by
  rcases List.append_eq_append_iff.1 h with ⟨m, rfl, rfl⟩ | ⟨m, rfl, same⟩
  · exact .inr ⟨m, rfl, rfl⟩
  · cases m with
    | nil => exact .inr ⟨[], by simp, same.symm⟩
    | cons b m =>
      obtain ⟨rfl, rfl⟩ := List.cons.inj same
      exact .inl ⟨m, rfl, rfl⟩

namespace Wait

-- Naps are never empty, never longer than the poll length, and end at the deadline at the latest.
structure Sound (key : LockKey) (timeout poll start : Nat) (t : List Sight)
    (r : Except LockError Ending) : Prop where
  released : r = .ok .released → ∃ l, t = l ++ [.asked ⟨.lockExists key, false⟩]
  timedOut : r = .ok .timedOut → start + timeout < clockLimit ∧
    ∃ l now, t = l ++ [.asked ⟨.lockExists key, true⟩, .clock now] ∧ start + timeout ≤ now
  cancelled : ∀ e, r = .error e → e = .cancelled ∧
    ∃ l, t = l ++ [.token true] ∨ ∃ n, t = l ++ [.nap n true]
  held : ∀ l x l', t = l ++ .asked x :: l' → x = ⟨.lockExists key, true⟩ ∨
    x = ⟨.lockExists key, false⟩ ∧ l' = [] ∧ r = .ok .released
  naps : ∀ l n fired l', t = l ++ .nap n fired :: l' → 0 < n ∧ n ≤ poll ∧
    (start + timeout < clockLimit →
      ∃ l₀ now, l = l₀ ++ [.clock now] ∧ now + n ≤ start + timeout)

variable {key : LockKey} {poll start timeout n d : Nat} {deadline : Option Nat}
  {t x l l' : List Sight} {r : Except LockError Ending}

lemma deadline?_eq_some : deadline? start timeout = some d ↔
    start + timeout < clockLimit ∧ d = start + timeout := by
  unfold deadline?
  split <;> rename_i fits <;> simp [fits, eq_comm]

namespace Rounds

lemma ends_released (h : Rounds key poll deadline t r) (ending : r = .ok .released) :
    ∃ l, t = l ++ [.asked ⟨.lockExists key, false⟩] := by
  induction h with
  | released => exact ⟨[.token false], rfl⟩
  | @again x t n r pause _ ih =>
    obtain ⟨l, rfl⟩ := ih ending
    exact ⟨finding key ++ x ++ .nap n false :: l, by simp⟩
  | _ => cases ending

lemma ends_timedOut (h : Rounds key poll deadline t r) (ending : r = .ok .timedOut) :
    ∃ d, deadline = some d ∧
      ∃ l now, t = l ++ [.asked ⟨.lockExists key, true⟩, .clock now] ∧ d ≤ now := by
  induction h with
  | @timedOut d now bound past => exact ⟨d, bound, [.token false], now, rfl, past⟩
  | @again x t n r pause _ ih =>
    obtain ⟨d, bound, l, now, rfl, past⟩ := ih ending
    exact ⟨d, bound, finding key ++ x ++ .nap n false :: l, now, by simp, past⟩
  | _ => cases ending

lemma ends_error {e : LockError} (h : Rounds key poll deadline t r) (ending : r = .error e) :
    e = .cancelled ∧ ∃ l, t = l ++ [.token true] ∨ ∃ n, t = l ++ [.nap n true] := by
  induction h with
  | fired =>
    cases ending
    exact ⟨rfl, [], .inl rfl⟩
  | @woken x n pause =>
    cases ending
    exact ⟨rfl, finding key ++ x, .inr ⟨n, rfl⟩⟩
  | @again x t n r pause _ ih =>
    obtain ⟨rfl, l, ends⟩ := ih ending
    refine ⟨rfl, finding key ++ x ++ .nap n false :: l, ?_⟩
    rcases ends with rfl | ⟨n', rfl⟩
    · exact .inl (by simp)
    · exact .inr ⟨n', by simp⟩
  | _ => cases ending

end Rounds

lemma Pause.eq_of_asked {e : Exchange} {fired : Bool} (pause : Pause poll deadline x n)
    (mem : .asked e ∈ finding key ++ x ++ [.nap n fired]) : e = ⟨.lockExists key, true⟩ := by
  cases pause <;> simpa [finding] using mem

lemma Pause.eq_of_nap {fired fired' : Bool} {n' : Nat} (pause : Pause poll deadline x n)
    (h : finding key ++ x ++ [.nap n fired] = l ++ .nap n' fired' :: l') :
    n' = n ∧ l = finding key ++ x := by
  rcases split_of_append h with ⟨m, inside, -⟩ | ⟨m, rfl, last⟩
  · have mem : Sight.nap n' fired' ∈ finding key ++ x := by simp [inside]
    cases pause <;> simp [finding] at mem
  · cases m with
    | nil =>
      cases last
      exact ⟨rfl, List.append_nil _⟩
    | cons b m => cases m <;> cases last

lemma Pause.naps {fired fired' : Bool} {n' : Nat} (pause : Pause poll deadline x n)
    (positive : 0 < poll) (h : finding key ++ x ++ [.nap n fired] = l ++ .nap n' fired' :: l') :
    0 < n' ∧ n' ≤ poll ∧
      ∀ d, deadline = some d → ∃ l₀ now, l = l₀ ++ [.clock now] ∧ now + n' ≤ d := by
  obtain ⟨rfl, rfl⟩ := pause.eq_of_nap h
  cases pause with
  | unbounded => exact ⟨positive, Nat.le_refl _, nofun⟩
  | @bounded d now before =>
    refine ⟨by omega, by omega, fun d' same => ⟨finding key, now, rfl, ?_⟩⟩
    cases same
    omega

namespace Rounds

lemma asks {e : Exchange} (h : Rounds key poll deadline t r) (split : t = l ++ .asked e :: l') :
    e = ⟨.lockExists key, true⟩ ∨
      e = ⟨.lockExists key, false⟩ ∧ l' = [] ∧ r = .ok .released := by
  induction h generalizing l with
  | fired => rcases l with _ | ⟨a, _ | ⟨b, l⟩⟩ <;> cases split
  | released =>
    rcases l with _ | ⟨a, _ | ⟨b, _ | ⟨c, l⟩⟩⟩ <;> cases split
    exact .inr ⟨rfl, rfl, rfl⟩
  | @timedOut d now bound past =>
    have mem : Sight.asked e ∈ finding key ++ [.clock now] := by
      rw [split]
      simp
    exact .inl (by simpa [finding] using mem)
  | woken pause => exact .inl (pause.eq_of_asked (by rw [split]; simp))
  | @again x t n r pause rest ih =>
    rw [← List.singleton_append, ← List.append_assoc] at split
    rcases split_of_append split with ⟨m, inside, -⟩ | ⟨m, -, later⟩
    · exact .inl (pause.eq_of_asked (by rw [inside]; simp))
    · exact ih later

lemma naps {fired : Bool} {n : Nat} (h : Rounds key poll deadline t r) (positive : 0 < poll)
    (split : t = l ++ .nap n fired :: l') :
    0 < n ∧ n ≤ poll ∧ ∀ d, deadline = some d → ∃ l₀ now, l = l₀ ++ [.clock now] ∧ now + n ≤ d := by
  induction h generalizing l with
  | fired => rcases l with _ | ⟨a, _ | ⟨b, l⟩⟩ <;> cases split
  | released => rcases l with _ | ⟨a, _ | ⟨b, _ | ⟨c, l⟩⟩⟩ <;> cases split
  | @timedOut d now bound past =>
    have mem : Sight.nap n fired ∈ finding key ++ [.clock now] := by
      rw [split]
      simp
    simp [finding] at mem
  | woken pause => exact pause.naps positive split
  | @again x t n r pause rest ih =>
    rw [← List.singleton_append, ← List.append_assoc] at split
    rcases split_of_append split with ⟨m, inside, -⟩ | ⟨m, rfl, later⟩
    · exact pause.naps positive inside
    · obtain ⟨hp, hn, within⟩ := ih later
      refine ⟨hp, hn, fun d bound => ?_⟩
      obtain ⟨l₀, now, rfl, fits⟩ := within d bound
      exact ⟨_, now, (List.append_assoc ..).symm, fits⟩

lemma sound (h : Rounds key poll (deadline? start timeout) t r) (positive : 0 < poll) :
    Sound key timeout poll start t r where
  released := h.ends_released
  timedOut ending := by
    obtain ⟨d, bound, l, now, rfl, past⟩ := h.ends_timedOut ending
    obtain ⟨fits, rfl⟩ := deadline?_eq_some.1 bound
    exact ⟨fits, l, now, rfl, past⟩
  cancelled _ := h.ends_error
  held _ _ _ := h.asks
  naps l n fired l' split := by
    obtain ⟨hp, hn, within⟩ := h.naps positive split
    exact ⟨hp, hn, fun fits => within _ (deadline?_eq_some.2 ⟨fits, rfl⟩)⟩

end Rounds

end Wait

namespace Authority

variable [Regex.Engine]

lemma timeless_ask (q : Question) : q.ask.Timeless := by
  unfold Question.ask
  split
  · exact .log _ (.done _)
  · refine (Op.timeless_ask _).bind fun grants => (Op.timeless_check _).bind fun found => ?_
    cases found with
    | none => exact .done _
    | some grant => exact .log _ (.done _)

lemma timeless_mayRevoke (office : String) (user : Option String) (project application : String) :
    (mayRevoke office user project application).Timeless := by
  rw [mayRevoke_eq]
  exact (Op.timeless_check _).bind timeless_ask

end Authority

namespace Locking

variable {config : LockConfig} {lock : NewLock} {timeout waitedMs : Nat} {t : List Sight}

lemma timeless_stamp (key : LockKey) (user : String) (timeout : Nat) :
    (stamp key user timeout).Timeless := by
  refine (Op.timeless_ask _).bind fun holder => ?_
  cases holder with
  | none => exact .done _
  | some holder => exact (Op.timeless_ask _).bind fun stamped => .log _ (.done _)

lemma le_waited {seconds : Int} {length : Nat} (ht : checkedTimeout seconds = .ok timeout)
    (enough : timeout ≤ length) (fits : length / 1000000 < 0x10000000000000000) :
    1000 * seconds ≤ Wait.millis length := by
  unfold checkedTimeout at ht
  split at ht
  · cases ht
  · cases ht
    have whole : Wait.millis length = length / 1000000 := Nat.mod_eq_of_lt fits
    omega

lemma retry_not_timedOut {w : Nat} : ¬ (retry lock w).Sees t (.ok (.revokeTimedOut waitedMs)) := by
  intro h
  obtain ⟨o, retries, same⟩ := retry_makes (runs_iff.2 ⟨t, h, rfl⟩)
  cases same
  generalize exchangesOf t = l at retries
  cases retries

lemma awaitHolder_timesOut
    (h : (awaitHolder config lock timeout).Sees t (.ok (.revokeTimedOut waitedMs))) :
    ∃ started start l ended,
      t = Sight.clock started :: Sight.clock start :: (l ++ [Sight.clock ended]) ∧
        waitedMs = Wait.millis (ended - started) ∧
        Wait.Rounds lock.key (pollLength config) (Wait.deadline? start timeout) l
          (.ok .timedOut) := by
  obtain ⟨started, t, rfl, ha⟩ := Op.sees_now_bind.1 h
  rcases Op.sees_await_bind.1 ha with ⟨ending, t₁, t₂, rfl, hw, hk⟩ | ⟨e, same, -⟩
  · obtain ⟨ended, t₂, rfl, hn⟩ := Op.sees_now_bind.1 hk
    cases ending with
    | released => exact absurd hn retry_not_timedOut
    | timedOut =>
      obtain ⟨rfl, same⟩ := Op.sees_done.1 (Op.sees_emit_bind.1 hn)
      cases same
      obtain ⟨start, l, rfl, rounds⟩ := Wait.traces_iff_rounds.1 hw
      exact ⟨started, start, l, ended, rfl, rfl, rounds⟩
  · cases same

lemma awaitHolder_waits
    (h : (awaitHolder config lock timeout).Sees t (.ok (.revokeTimedOut waitedMs)))
    (ordered : (readings t).Pairwise (· ≤ ·)) :
    ∃ started l ended, readings t = started :: (l ++ [ended]) ∧ started + timeout ≤ ended ∧
      waitedMs = Wait.millis (ended - started) := by
  obtain ⟨started, start, l, ended, rfl, rfl, rounds⟩ := awaitHolder_timesOut h
  obtain ⟨d, bound, l, now, rfl, past⟩ := rounds.ends_timedOut rfl
  obtain ⟨-, rfl⟩ := Wait.deadline?_eq_some.1 bound
  have times : readings (Sight.clock started :: Sight.clock start ::
      (l ++ [Sight.asked ⟨.lockExists lock.key, true⟩, Sight.clock now] ++ [Sight.clock ended])) =
        started :: start :: (readings l ++ [now, ended]) := by
    simp [readings, List.filterMap_cons, Sight.time?]
  rw [times] at ordered
  obtain ⟨before, ordered⟩ := List.pairwise_cons.1 ordered
  have first : started ≤ start := before start List.mem_cons_self
  have last : now ≤ ended := List.pairwise_pair.1
    (List.pairwise_append.1 (List.pairwise_cons.1 ordered).2).2.1
  exact ⟨started, start :: readings l ++ [now], ended, by rw [times]; simp, by omega, rfl⟩

variable [Regex.Engine]

lemma revokeHolder_sees {caller : Option String} {o : Except LockError AcquireOutcome}
    (h : (revokeHolder config lock caller timeout).Sees t o) :
    ((∀ s ∈ t, ∃ x, s = .asked x) ∧ ∀ w, o ≠ .ok (.revokeTimedOut w)) ∨
      ∃ t₀ t₁, t = t₀ ++ t₁ ∧ (∀ s ∈ t₀, ∃ x, s = .asked x) ∧
        (awaitHolder config lock timeout).Sees t₁ o := by
  rcases Op.Sees.bind h with ⟨allowed, t₁, t₂, rfl, ha, h₁⟩ | ⟨e, rfl, ha⟩
  · have asks := (Authority.timeless_mayRevoke _ _ _ _).asked ha
    cases allowed with
    | false =>
      obtain ⟨rfl, rfl⟩ := Op.sees_done.1 (Op.sees_emit_bind.1 h₁)
      rw [List.append_nil]
      exact .inl ⟨asks, nofun⟩
    | true =>
      rcases Op.sees_check_bind.1 h₁ with ⟨user, hu, h₂⟩ | ⟨e, -, rfl, rfl⟩
      · rcases Op.Sees.bind h₂ with ⟨_, t₃, t₄, rfl, hs, h₃⟩ | ⟨e, rfl, hs⟩
        · have stamps := (timeless_stamp _ _ _).asked hs
          exact .inr ⟨t₁ ++ t₃, t₄, (List.append_assoc ..).symm,
            fun s hs => (List.mem_append.1 hs).elim (asks s) (stamps s), h₃⟩
        · have stamps := (timeless_stamp _ _ _).asked hs
          exact .inl ⟨fun s hs => (List.mem_append.1 hs).elim (asks s) (stamps s), nofun⟩
      · rw [List.append_nil]
        exact .inl ⟨asks, nofun⟩
  · exact .inl ⟨(Authority.timeless_mayRevoke _ _ _ _).asked ha, nofun⟩

lemma request_sees {r : LockRequest} {caller : Option String} {lockId : String}
    {o : Except LockError AcquireOutcome} (h : (request config r caller lockId).Sees t o) :
    ((∀ s ∈ t, ∃ x, s = .asked x) ∧ ∀ w, o ≠ .ok (.revokeTimedOut w)) ∨
      r.revokeExisting = true ∧ ∃ timeout t₀ t₁,
        checkedTimeout r.revokeTimeoutSecs = .ok timeout ∧
        t = .asked ⟨.insertLock (newLock r lockId), none⟩ :: (t₀ ++ t₁) ∧
        (∀ s ∈ t₀, ∃ x, s = .asked x) ∧
        (awaitHolder config (newLock r lockId) timeout).Sees t₁ o := by
  rcases Op.sees_check_bind.1 h with ⟨timeout, ht, h₁⟩ | ⟨e, -, rfl, rfl⟩
  · obtain ⟨inserted, t, rfl, h₂⟩ := Op.sees_ask_bind.1 h₁
    cases inserted with
    | some row =>
      obtain ⟨rfl, rfl⟩ := Op.sees_done.1 (Op.sees_emit_bind.1 h₂)
      exact .inl ⟨List.forall_mem_singleton.2 ⟨_, rfl⟩, nofun⟩
    | none =>
      cases revoke : r.revokeExisting with
      | false =>
        simp only [revoke, Bool.false_eq_true, if_false, Op.sees_emit_bind] at h₂
        obtain ⟨holder, t, rfl, h₃⟩ := Op.sees_ask_bind.1 h₂
        obtain ⟨rfl, rfl⟩ := Op.sees_done.1 h₃
        exact .inl ⟨List.forall_mem_cons.2 ⟨⟨_, rfl⟩, List.forall_mem_singleton.2 ⟨_, rfl⟩⟩, nofun⟩
      | true =>
        simp only [revoke, if_true] at h₂
        rcases revokeHolder_sees h₂ with ⟨asked, other⟩ | ⟨t₀, t₁, rfl, asked, awaits⟩
        · exact .inl ⟨List.forall_mem_cons.2 ⟨⟨_, rfl⟩, asked⟩, other⟩
        · exact .inr ⟨rfl, timeout, t₀, t₁, ht, rfl, asked, awaits⟩
  · exact .inl ⟨List.forall_mem_nil _, nofun⟩

lemma request_timesOut {r : LockRequest} {caller : Option String} {lockId : String}
    (h : (request config r caller lockId).Sees t (.ok (.revokeTimedOut waitedMs))) :
    ∃ timeout t₀ t₁, checkedTimeout r.revokeTimeoutSecs = .ok timeout ∧ t = t₀ ++ t₁ ∧
      readings t₀ = [] ∧
      (awaitHolder config (newLock r lockId) timeout).Sees t₁ (.ok (.revokeTimedOut waitedMs)) := by
  rcases request_sees h with ⟨-, other⟩ | ⟨-, timeout, t₀, t₁, ht, rfl, asked, awaits⟩
  · exact absurd rfl (other waitedMs)
  · exact ⟨timeout, _ :: t₀, t₁, ht, rfl,
      readings_of_asked (List.forall_mem_cons.2 ⟨⟨_, rfl⟩, asked⟩), awaits⟩

theorem wait_sound :
    (∀ (key : LockKey) (timeout poll : Nat) (t : List Sight) (r : Except LockError Wait.Ending),
      0 < poll → Traces Wait.action { key := key, timeout := timeout, poll := poll } t r →
        ∃ start l, t = .clock start :: l ∧ Wait.Sound key timeout poll start l r) ∧
    ∀ (config : LockConfig) (r : LockRequest) (caller : Option String) (lockId : String)
      (t : List Sight) (waitedMs : Nat),
      (request config r caller lockId).Sees t (.ok (.revokeTimedOut waitedMs)) →
        (readings t).Pairwise (· ≤ ·) →
          ∃ started l ended, readings t = started :: (l ++ [ended]) ∧ started ≤ ended ∧
            waitedMs = Wait.millis (ended - started) ∧
            ((ended - started) / 1000000 < 0x10000000000000000 →
              1000 * r.revokeTimeoutSecs ≤ waitedMs) := by
  constructor
  · intro key timeout poll t r positive h
    obtain ⟨start, l, rfl, rounds⟩ := Wait.traces_iff_rounds.1 h
    exact ⟨start, l, rfl, rounds.sound positive⟩
  · intro config r caller lockId t waitedMs h ordered
    obtain ⟨timeout, t₀, t₁, ht, rfl, before, awaits⟩ := request_timesOut h
    rw [readings_append, before, List.nil_append] at ordered ⊢
    obtain ⟨started, l, ended, times, enough, rfl⟩ := awaitHolder_waits awaits ordered
    exact ⟨started, l, ended, times, by omega, rfl, le_waited ht (by omega)⟩

end Locking

namespace Locking

attribute [local instance] Regex.runner

def queuedKey : LockKey := ⟨"OSL", "fence", "editor"⟩

def shortWait : List Sight :=
  Wait.finding queuedKey ++ [.clock 10] ++ .nap 250 false ::
    (Wait.finding queuedKey ++ [.clock 260] ++ .nap 40 false ::
      (Wait.finding queuedKey ++ [.clock 300]))

lemma rounds_shortWait :
    Wait.Rounds queuedKey 250 (Wait.deadline? 0 300) shortWait (.ok .timedOut) :=
  .again (.bounded (d := 300) (by decide)) <| .again (.bounded (d := 300) (by decide)) <|
    .timedOut (d := 300) rfl (Nat.le_refl 300)

def queuedGrant : Grant := ⟨1, "OSL", "*", "kim", "*", "*", .ofNanos 0, .ofNanos 0⟩

lemma sees_mayRevoke_queued :
    (Authority.mayRevoke "OSL" (some "kim") "fence" "editor").Sees
      [.asked ⟨.grantsOf "kim", [queuedGrant]⟩] (.ok true) :=
  .call (c := .grantsOf "kim") rfl [queuedGrant] (.log rfl (.done rfl))

def patient : List Sight :=
  .asked ⟨.insertLock ⟨"b", queuedKey, {}⟩, none⟩ ::
    ([.asked ⟨.grantsOf "kim", [queuedGrant]⟩] ++ ([.asked ⟨.findLock queuedKey, none⟩] ++
      .clock 5 :: (.clock 6 :: (Wait.finding queuedKey ++ [.clock 1000000007]) ++
        [.clock 1000000008])))

lemma sees_patient :
    (request ⟨250, 10⟩ (.revoking { key := queuedKey } 1) (some "kim") "b").Sees patient
      (.ok (.revokeTimedOut 1000)) := by
  have waits : (Op.await queuedKey 1000000000 250000000).Sees
      (.clock 6 :: (Wait.finding queuedKey ++ [.clock 1000000007])) (.ok .timedOut) :=
    Op.sees_wait.2 ⟨.ok .timedOut, _, [], (List.append_nil _).symm, Wait.traces_iff_rounds.2
      ⟨6, _, rfl, .timedOut (d := 1000000006) rfl (by decide)⟩, .done rfl⟩
  refine .call (c := .insertLock ⟨"b", queuedKey, {}⟩) rfl none (sees_mayRevoke_queued.andThen ?_)
  refine Op.Sees.andThen (a := ()) (.call (c := .findLock queuedKey) rfl none (.done rfl)) ?_
  exact .clock rfl (waits.andThen (.clock rfl (.log rfl (.done rfl))))

theorem wait_sound_patient :
    Wait.Sound queuedKey 300 250 0 shortWait (.ok .timedOut) ∧
      ∃ started l ended, readings patient = started :: (l ++ [ended]) ∧
        1000 = Wait.millis (ended - started) ∧ 1000 * (1 : Int) ≤ (1000 : Nat) := by
  obtain ⟨waits, requests⟩ := wait_sound
  obtain ⟨start, l, same, sound⟩ := waits queuedKey 300 250 (.clock 0 :: shortWait) _ (by decide)
    (Wait.traces_iff_rounds.2 ⟨0, shortWait, rfl, rounds_shortWait⟩)
  cases same
  obtain ⟨started, l, ended, times, -, waited, enough⟩ :=
    requests _ _ _ _ patient 1000 sees_patient (by decide)
  have last : (readings patient).getLast? = some ended := by
    rw [times, ← List.cons_append, List.getLast?_concat]
  obtain rfl : 1000000008 = ended := Option.some.inj last
  exact ⟨sound, started, l, 1000000008, times, waited, enough (by omega)⟩

end Locking

end LockRegistry
