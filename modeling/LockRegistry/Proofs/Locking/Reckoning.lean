import LockRegistry.Proofs.Locking.Schedule
import LockRegistry.Proofs.Op.Reckoning
import LockRegistry.Regex.Runner

namespace LockRegistry

namespace Locking

variable {config : LockConfig} {r : LockRequest} {caller : Option String} {lockId : String}
  {lock : NewLock} {timeout started waitedMs : Nat} {t : List Sight} {w : Wait}
  {next : Except LockError Wait.Ending → Op AcquireOutcome}

def conclusion (lock : NewLock) (waitedMs : Nat) : Wait.Ending → Op AcquireOutcome
  | .released => retry lock waitedMs
  | .timedOut => do
    .emit (event .warn "Lock revocation timed out"
      [keyField lock.key, ("waited_ms", .int waitedMs)])
    return .revokeTimedOut waitedMs

def concluding (lock : NewLock) (started : Nat) (ending : Except LockError Wait.Ending) :
    Op AcquireOutcome := do
  let ending ← .done ending
  let ended ← .now
  conclusion lock (Wait.millis (ended - started)) ending

lemma awaitHolder_eq (config : LockConfig) (lock : NewLock) (timeout : Nat) :
    awaitHolder config lock timeout = Op.now >>= fun started =>
      .wait { key := lock.key, timeout := timeout, poll := pollLength config }
        (concluding lock started) := by
  refine congrArg Op.clock (funext fun started => congrArg (Op.wait _) (funext fun ending => ?_))
  match ending with
  | .ok .released | .ok .timedOut | .error _ => rfl

lemma timeless_conclusion (lock : NewLock) (waitedMs : Nat) (ending : Wait.Ending) :
    (conclusion lock waitedMs ending).Timeless := by
  cases ending with
  | released => exact timeless_retry _ _
  | timedOut => exact .log _ (.done _)

lemma awaitHolder_comes
    (h : Comes Op.action (awaitHolder config lock timeout) t (.wait w next)) :
    ∃ started l, t = .clock started :: l ∧
      Comes Wait.action { key := lock.key, timeout := timeout, poll := pollLength config } l w ∧
      next = concluding lock started := by
  rw [awaitHolder_eq] at h
  obtain ⟨started, l, rfl, waits⟩ := Op.comes_now_bind_wait h
  refine ⟨started, l, rfl, ?_⟩
  rcases Op.comes_wait waits with ⟨w', comes, same⟩ | ⟨ending, t₁, t₂, -, -, later⟩
  · cases same
    exact ⟨comes, rfl⟩
  · cases ending with
    | ok ending =>
      obtain ⟨ended, u, -, concludes⟩ := Op.comes_now_bind_wait later
      exact absurd concludes (timeless_conclusion _ _ _).not_comes_wait
    | error e => exact absurd later (Op.Timeless.done _).not_comes_wait

lemma few_of_timeout {seconds : Int} {pollMs : Nat}
    (accepted : checkedTimeout seconds = .ok timeout) (least : 10 ≤ pollMs)
    (short : seconds ≤ 42949672) :
    timeout ⌈/⌉ (pollMs * 1000000) + 1 < 2 ^ 32 := by
  unfold checkedTimeout at accepted
  split at accepted
  · cases accepted
  · cases accepted
    suffices few : seconds.toNat * 1000000000 ⌈/⌉ (pollMs * 1000000) ≤ 4294967200 by omega
    rw [ceilDiv_le_iff_le_mul (by omega)]
    omega

variable [Regex.Engine]

lemma revokeHolder_comes
    (h : Comes Op.action (revokeHolder config lock caller timeout) t (.wait w next)) :
    ∃ t₀ t₁, t = t₀ ++ t₁ ∧ (∀ s ∈ t₀, ∃ x, s = .asked x) ∧
      Comes Op.action (awaitHolder config lock timeout) t₁ (.wait w next) := by
  have may := Authority.timeless_mayRevoke lock.key.office caller lock.key.project
    lock.key.application
  obtain ⟨allowed, t₁, u, rfl, asks, h⟩ := may.comes_bind_wait h
  cases allowed with
  | false => exact absurd h (Op.Timeless.log _ (.done _)).not_comes_wait
  | true =>
    obtain ⟨user, -, h⟩ := Op.comes_check_bind_wait h
    obtain ⟨_, t₂, u, rfl, stamps, h⟩ := (timeless_stamp _ _ _).comes_bind_wait h
    refine ⟨t₁ ++ t₂, u, (List.append_assoc ..).symm, ?_, h⟩
    exact List.forall_mem_append.2 ⟨may.asked asks, (timeless_stamp _ _ _).asked stamps⟩

lemma request_comes
    (h : Comes Op.action (request config r caller lockId) t (.wait w next)) :
    ∃ timeout t₀ t₁, checkedTimeout r.revokeTimeoutSecs = .ok timeout ∧ t = t₀ ++ t₁ ∧
      (∀ s ∈ t₀, ∃ x, s = .asked x) ∧
      Comes Op.action (awaitHolder config (newLock r lockId) timeout) t₁ (.wait w next) := by
  obtain ⟨timeout, accepted, h⟩ := Op.comes_check_bind_wait h
  obtain ⟨inserted, t₁, u, rfl, asks, h⟩ := (Op.timeless_ask _).comes_bind_wait h
  have first := (Op.timeless_ask _).asked asks
  cases inserted with
  | some row => exact absurd h (Op.Timeless.log _ (.done _)).not_comes_wait
  | none =>
    cases revoke : r.revokeExisting with
    | false =>
      simp only [revoke, Bool.false_eq_true, if_false] at h
      exact absurd h (Op.Timeless.log _ (timeless_reportHolder _)).not_comes_wait
    | true =>
      simp only [revoke, if_true] at h
      obtain ⟨t₂, u, rfl, asked, h⟩ := revokeHolder_comes h
      exact ⟨timeout, t₁ ++ t₂, u, accepted, (List.append_assoc ..).symm,
        List.forall_mem_append.2 ⟨first, asked⟩, h⟩

/-- The time is before the deadline when it is subtracted, and the counter is right just as long as
the looks are fewer than 2 ^ 32. -/
theorem wait_reckoning (key : LockKey) (timeout poll : Nat) (config : LockConfig)
    (r : LockRequest) (caller : Option String) (lockId : String) :
    (∀ (t : List Sight) (w : Wait),
      Comes Wait.action { key := key, timeout := timeout, poll := poll } t w →
        (t = [] ∧ w.phase = .start) ∨ ∃ start l, t = .clock start :: l ∧
          Wait.Reckons timeout poll start l w ∧
          (∀ c ∈ w.phase.polls?, c.toNat = tries l ↔ tries l < 2 ^ 32) ∧
          (0 < poll → start + timeout < Wait.clockLimit → OnTime start l →
            tries l ≤ timeout ⌈/⌉ poll + 1)) ∧
    ∀ (t : List Sight) (w : Wait) (next : Except LockError Wait.Ending → Op AcquireOutcome),
      Comes Op.action (request config r caller lockId) t (.wait w next) →
        ∃ timeout t₀ started l, checkedTimeout r.revokeTimeoutSecs = .ok timeout ∧
          t = t₀ ++ .clock started :: l ∧ (∀ s ∈ t₀, ∃ x, s = .asked x) ∧
          Comes Wait.action { key := r.key, timeout := timeout, poll := pollLength config } l w ∧
          (10 ≤ config.pollIntervalMs → r.revokeTimeoutSecs ≤ 42949672 →
            ∀ start l', l = .clock start :: l' → start + timeout < Wait.clockLimit →
              OnTime start l' → tries l' < 2 ^ 32) ∧
          next = concluding (newLock r lockId) started ∧
          ∀ u ended, OnTime started (l ++ u ++ [.clock ended]) → started ≤ ended ∧
            (Wait.millis (ended - started) = (ended - started) / 1000000 ↔
              (ended - started) / 1000000 < 2 ^ 64) := by
  constructor
  · intro t w h
    refine (Wait.begun_of_comes h).imp_right fun ⟨start, l, split, reckons, few⟩ => ?_
    exact ⟨start, l, split, reckons, reckons.exact_iff, few⟩
  · intro t w next h
    obtain ⟨timeout, t₀, t₁, accepted, rfl, asked, h⟩ := request_comes h
    obtain ⟨started, l, rfl, comes, rfl⟩ := awaitHolder_comes h
    refine ⟨timeout, t₀, started, l, accepted, rfl, asked, comes, ?_, rfl,
      fun u ended onTime => onTime.elapsed⟩
    intro least short start l' split fits onTime
    rcases Wait.begun_of_comes comes with ⟨empty, -⟩ | ⟨start', l'', split', -, few⟩
    · cases split.symm.trans empty
    · obtain ⟨same, rfl⟩ := List.cons.inj (split.symm.trans split')
      cases same
      have positive : 0 < pollLength config := Nat.mul_pos (by omega) (by decide)
      exact (few positive fits onTime).trans_lt (few_of_timeout accepted least short)

end Locking

namespace Locking

attribute [local instance] Regex.runner

def queuing : List Sight :=
  [.asked ⟨.insertLock ⟨"b", queuedKey, {}⟩, none⟩, .asked ⟨.grantsOf "kim", [queuedGrant]⟩,
    .asked ⟨.findLock queuedKey, none⟩]

lemma comes_queuing (config : LockConfig) (seconds : Int) (started : Nat)
    (accepted : checkedTimeout seconds = .ok timeout) :
    Comes Op.action (request config (.revoking { key := queuedKey } seconds) (some "kim") "b")
      (queuing ++ [.clock started])
      (.wait { key := queuedKey, timeout := timeout, poll := pollLength config }
        (concluding ⟨"b", queuedKey, {}⟩ started)) := by
  have waits : Comes Op.action (awaitHolder config ⟨"b", queuedKey, {}⟩ timeout) [.clock started]
      (.wait { key := queuedKey, timeout := timeout, poll := pollLength config }
        (concluding ⟨"b", queuedKey, {}⟩ started)) := by
    rw [awaitHolder_eq]
    exact .clock rfl .start
  rw [request, show LockRequest.revokeTimeoutSecs _ = seconds from rfl, accepted, Op.check_ok_bind]
  refine Op.comes_ask_bind (c := .insertLock ⟨"b", queuedKey, {}⟩) none ?_
  simp only [LockRequest.revoking, if_true, revokeHolder]
  refine ((Authority.timeless_mayRevoke ..).comes_of_sees _ sees_mayRevoke_queued).trans
    (u := [.asked ⟨.findLock queuedKey, none⟩, .clock started]) ?_
  exact .call (c := .findLock queuedKey) rfl none waits

def firstNap : List Sight :=
  .clock 6 :: (Wait.finding queuedKey ++ [.clock 6] ++ [.nap 250000000 false])

lemma comes_firstNap :
    Comes Wait.action { key := queuedKey, timeout := 1000000000, poll := 250000000 } firstNap
      (Wait.inPhase queuedKey 1000000000 250000000 (.ready (some 1000000006) 1)) :=
  .clock rfl (Wait.comes_of_pending _ (Wait.comes_round (.bounded (by decide)) 0))

theorem wait_reckoning_patient :
    (Wait.Reckons 1000000000 250000000 6 firstNap.tail
        (Wait.inPhase queuedKey 1000000000 250000000 (.ready (some 1000000006) 1)) ∧
      tries firstNap.tail ≤ 1000000000 ⌈/⌉ 250000000 + 1) ∧
    Wait.millis (250000006 - 5) = (250000006 - 5) / 1000000 ∧ tries firstNap.tail < 2 ^ 32 := by
  obtain ⟨waits, requests⟩ := wait_reckoning queuedKey 1000000000 250000000 ⟨250, 10⟩
    (.revoking { key := queuedKey } 1) (some "kim") "b"
  constructor
  · rcases waits _ _ comes_firstNap with ⟨empty, -⟩ | ⟨start, l, split, reckons, -, few⟩
    · cases empty
    · cases split
      exact ⟨reckons, few (by decide) (by decide) (by decide)⟩
  · obtain ⟨timeout, t₀, started, l, accepted, split, asked, -, short, -, elapsed⟩ :=
      requests _ _ _ ((comes_queuing ⟨250, 10⟩ 1 5 rfl).trans (Op.comes_waiting _ comes_firstNap))
    cases accepted
    have waited : OnTime 5 (firstNap ++ [] ++ [.clock 250000006]) := by decide
    -- the clock is read for the first time after three questions
    rcases t₀ with _ | ⟨a, _ | ⟨b, _ | ⟨c, _ | ⟨d, t₀⟩⟩⟩⟩
    · cases split
    · cases split
    · cases split
    · cases split
      exact ⟨(elapsed [] _ waited).2.2 (by decide),
        short (by decide) (by decide) 6 _ rfl (by decide) (by decide)⟩
    · obtain ⟨-, -, -, rfl, -⟩ : _ ∧ _ ∧ _ ∧ Sight.clock 5 = d ∧ _ := by simpa [queuing] using split
      obtain ⟨x, same⟩ := asked (.clock 5) (by simp)
      cases same

def tooLate : Nat := Wait.clockOrigin + 18446744073709551632000000

def overlong : List Sight :=
  Wait.finding queuedKey ++ [.clock Wait.clockOrigin] ++ .nap 250000000 false ::
    (Wait.finding queuedKey ++ [.clock tooLate])

lemma sees_overlong :
    (request (.clamped 250 10) (.revoking { key := queuedKey } 18446744073709551) (some "kim")
        "b").Sees
      (queuing ++ [.clock Wait.clockOrigin] ++
        (.clock Wait.clockOrigin :: overlong ++ [.clock tooLate])) (.ok (.revokeTimedOut 16)) := by
  have waits : Wait.Rounds queuedKey 250000000
      (some (Wait.clockOrigin + 18446744073709551000000000)) overlong (.ok .timedOut) :=
    .again (.bounded (d := Wait.clockOrigin + 18446744073709551000000000) (by decide))
      (.timedOut rfl (by decide))
  refine (comes_queuing _ _ _ rfl).traces (Op.sees_wait.2 ⟨.ok .timedOut, _, _, rfl, ?_, ?_⟩)
  · exact Wait.traces_iff_rounds.2 ⟨_, _, rfl, waits⟩
  · exact .clock rfl (.log rfl (.done rfl))

theorem wait_overflows :
    (∃ t₀ l w next,
      Comes Op.action
        (request (.clamped 10 10) (.revoking { key := queuedKey } (2 ^ 63 - 1)) (some "kim") "b")
        (t₀ ++ [.clock Wait.clockOrigin] ++ .clock Wait.clockOrigin :: l) (.wait w next) ∧
      OnTime Wait.clockOrigin l ∧ tries l = 2 ^ 32 ∧ w.phase.polls? = some 0) ∧
    ∃ t₀ l ended,
      (request (.clamped 250 10) (.revoking { key := queuedKey } 18446744073709551) (some "kim")
          "b").Sees (t₀ ++ [.clock Wait.clockOrigin] ++ (l ++ [.clock ended]))
        (.ok (.revokeTimedOut 16)) ∧
      OnTime Wait.clockOrigin (l ++ [.clock ended]) ∧
      (ended - Wait.clockOrigin) / 1000000 = 2 ^ 64 + 16 := by
  constructor
  · obtain ⟨l, comes, counted, onTime⟩ := Wait.exists_comes queuedKey ((2 ^ 63 - 1) * 1000000000)
      10000000 Wait.clockOrigin (by decide) (2 ^ 32)
    have waits := Op.comes_waiting (concluding ⟨"b", queuedKey, {}⟩ Wait.clockOrigin) comes
    exact ⟨queuing, l, _, _, (comes_queuing _ _ _ rfl).trans waits, onTime, counted, rfl⟩
  · exact ⟨queuing, _, tooLate, sees_overlong, by decide, by decide⟩

end Locking

end LockRegistry
