import LockRegistry.Proofs.Locking.Footprint
import LockRegistry.Proofs.Locking.Waiting
import LockRegistry.Proofs.Op.Schedule
import LockRegistry.Regex.Runner

namespace LockRegistry

namespace Locking

lemma timeless_reportHolder (key : LockKey) : (reportHolder key).Timeless :=
  (Op.timeless_ask _).bind fun _ => .done _

lemma timeless_retry (lock : NewLock) (waitedMs : Nat) : (retry lock waitedMs).Timeless := by
  refine (Op.timeless_ask _).bind fun inserted => ?_
  cases inserted with
  | some row => exact .log _ (.done _)
  | none => exact .log _ (timeless_reportHolder _)

variable {W : Fate} {config : LockConfig} {r : LockRequest} {caller : Option String}
  {lock : NewLock} {lockId : String} {start timeout given : Nat} {t : List Sight}
  {gone : List Sight → Prop}

lemma retry_ends (W : Fate) (lock : NewLock) (waitedMs : Nat) :
    ∃ t o, W.Ends Op.action (retry lock waitedMs) t (.ok o) ∧ (∀ s ∈ t, ∃ x, s = .asked x) ∧
      Retries lock (exchangesOf t) o := by
  obtain ⟨t, r, ends⟩ := (timeless_retry lock waitedMs).ends W
  obtain ⟨o, retries, rfl⟩ := retry_makes (runs_iff.2 ⟨t, ends.traces, rfl⟩)
  exact ⟨t, o, ends, (timeless_retry lock waitedMs).asked ends.traces, retries⟩

lemma Retries.looks {o : AcquireOutcome} {l : List Exchange} (h : Retries lock l o) :
    ∀ x ∈ l, x.looks = false := by
  intro x hx
  rcases h.call hx with hc | hc <;>
    exact Exchange.looks_eq_false fun _ => hc ▸ nofun

lemma Stamps.looks {l : List Exchange} {key : LockKey} {user : String} (h : Stamps key user l) :
    ∀ x ∈ l, x.looks = false := by
  intro x hx
  rcases h.call hx with hc | ⟨holder, hc⟩ <;>
    exact Exchange.looks_eq_false fun _ => hc ▸ nofun

variable [Regex.Engine]

lemma Retries.acquires {o : AcquireOutcome} (h : Retries lock (exchangesOf t) o) (plays : W.Plays t)
    (frees : W.Frees lock.key given gone) (left : gone []) : o = .acquired lock.lockId := by
  have answered {a : Option Lock} (mem : ⟨.insertLock lock, a⟩ ∈ exchangesOf t) :
      ∃ now, a = some (lock.toLock now) := by
    obtain ⟨u, shown⟩ := exists_shown mem
    obtain ⟨s, now, free, replies⟩ := frees.free u (frees.stays [] u left)
    have reply : a = (s.insertLock now lock).1 :=
      (plays.reply shown).trans (replies (.insertLock lock))
    rw [Store.insertLock, if_neg (by rw [free]; exact Bool.false_ne_true)] at reply
    exact ⟨now, reply⟩
  generalize exchangesOf t = l at h answered
  cases h with
  | acquired row =>
    obtain ⟨now, same⟩ := answered (List.mem_singleton_self _)
    cases same
    rfl
  | lost holder =>
    obtain ⟨now, same⟩ := answered List.mem_cons_self
    cases same

-- How a request goes on from its wait.
inductive Concludes (W : Fate) (lock : NewLock) (waitedMs : Nat) :
    Wait.Ending → AcquireOutcome → Prop
  | timedOut : Concludes W lock waitedMs .timedOut (.revokeTimedOut waitedMs)
  | released {o : AcquireOutcome}
      (acquires : ∀ given gone, W.Frees lock.key given gone → o = .acquired lock.lockId) :
      Concludes W lock waitedMs .released o

lemma awaitHolder_ends (steady : W.Steady start) (positive : 0 < pollLength config)
    (fits : start + timeout < Wait.clockLimit) (lock : NewLock) :
    ∃ t o e time, W.Ends Op.action (awaitHolder config lock timeout) t (.ok o) ∧
      Wait.Looks lock.key (pollLength config) (start + timeout) start time (looksAt start t)
        (.ok e) ∧
      Concludes W lock (Wait.millis (time - start)) e o := by
  have read : (W.past (.clock start)).Steady start := steady.past (.clock start)
  obtain ⟨l, e, waits, looks⟩ := Wait.exists_looks lock.key read positive fits
  have ended : ((W.past (.clock start)).after (.clock start :: l)).Steady (start + slept l) := by
    have later := read.after (.clock start :: l)
    change Fate.Steady _ (start + (0 + slept l)) at later
    rwa [Nat.zero_add] at later
  have seen (u : List Sight) :
      looksAt start (.clock start :: (.clock start :: l ++ .clock (start + slept l) :: u)) =
        timed start l ++ looksAt (start + slept l) u := by
    have all : looksAt start l = timed start l := List.filter_eq_self.2 looks.looks
    rw [← all]
    exact looksAt_append start l (.clock (start + slept l) :: u)
  cases e with
  | timedOut =>
    refine ⟨_, _, _, start + slept l, .now steady.start_eq.symm
      (.await waits (.now ended.start_eq.symm (.emit ⟨.done rfl, trivial⟩))), ?_, .timedOut⟩
    have quiet : looksAt (start + slept l) [] = [] := rfl
    rwa [seen, quiet, List.append_nil]
  | released =>
    obtain ⟨u, o, ends, asked, retries⟩ := retry_ends
      (((W.past (.clock start)).after (.clock start :: l)).past (.clock (start + slept l)))
      lock (Wait.millis (start + slept l - start))
    refine ⟨_, o, _, start + slept l,
      .now steady.start_eq.symm (.await waits (.now ended.start_eq.symm ends)), ?_,
      .released fun given gone frees => ?_⟩
    · rwa [seen, looksAt_of_asked asked retries.looks, List.append_nil]
    · -- the key was free at the last look, and is free at the offer
      obtain ⟨v, ⟨rest, split⟩, -⟩ := mem_timed_iff.1 looks.mem_last
      have reply := waits.plays.2.reply ⟨rest, split⟩
      have left := ((frees.past _).past _).gone_iff.2 reply.symm
      refine retries.acquires ends.plays (((frees.past _).after _).past _) ?_
      have still := frees.stays _ (.asked ⟨.lockExists lock.key, false⟩ ::
        (rest ++ [.clock (start + slept l)])) left
      subst split
      simpa using still

-- The request finds the key held, and its caller is found to have the right.
structure Contends (W : Fate) (r : LockRequest) (caller : Option String) (lockId : String) :
    Prop where
  revoke : r.revokeExisting = true
  held : W.answer [] (.insertLock (newLock r lockId)) = none
  allowed : ∃ t, (W.past (.asked ⟨.insertLock (newLock r lockId), none⟩)).Ends Op.action
    (Authority.mayRevoke r.key.office caller r.key.project r.key.application) t (.ok true)

lemma Asks.looks {l : List Exchange} {key : LockKey} {b : Except LockError Bool}
    (h : Asks key caller l b) : ∀ x ∈ l, x.looks = false := by
  intro x hx
  obtain ⟨name, hc⟩ := h.call hx
  exact Exchange.looks_eq_false fun _ => hc ▸ nofun

lemma request_ends (steady : W.Steady start) (contends : Contends W r caller lockId)
    (positive : 0 < pollLength config) (ht : checkedTimeout r.revokeTimeoutSecs = .ok timeout)
    (fits : start + timeout < Wait.clockLimit) :
    ∃ t o e time, W.Ends Op.action (request config r caller lockId) t (.ok o) ∧
      [.asked ⟨.insertLock (newLock r lockId), none⟩] <+: t ∧
      Wait.Looks r.key (pollLength config) (start + timeout) start time (looksAt start t) (.ok e) ∧
      Concludes W (newLock r lockId) (Wait.millis (time - start)) e o := by
  obtain ⟨revoke, held, t₁, asks⟩ := contends
  have asked := (Authority.timeless_mayRevoke _ _ _ _).asked asks.traces
  have asks' : Asks r.key caller (exchangesOf t₁) (.ok true) :=
    Authority.asks_of_makes (runs_iff.2 ⟨t₁, asks.traces, rfl⟩)
  obtain ⟨raw, rfl, name⟩ := asks'.caller
  have first : (W.past (.asked ⟨.insertLock (newLock r lockId), none⟩)).Steady start :=
    steady.past _
  have second := first.after_asked asked
  obtain ⟨t₂, b, stamps⟩ := (timeless_stamp r.key (Text.trim raw) timeout).ends
    ((W.past (.asked ⟨.insertLock (newLock r lockId), none⟩)).after t₁)
  obtain ⟨stamps', rfl⟩ := stamp_makes (runs_iff.2 ⟨t₂, stamps.traces, rfl⟩)
  have asked' := (timeless_stamp _ _ _).asked stamps.traces
  obtain ⟨t₃, o, e, time, ends, looks, concludes⟩ :=
    awaitHolder_ends (second.after_asked asked') positive fits (newLock r lockId)
  -- until it waits, the request only asks, and takes no time
  have before : ∀ s ∈ .asked ⟨.insertLock (newLock r lockId), none⟩ :: (t₁ ++ t₂),
      ∃ x, s = .asked x :=
    List.forall_mem_cons.2 ⟨⟨_, rfl⟩, fun s hs => (List.mem_append.1 hs).elim (asked s) (asked' s)⟩
  have other : ∀ x ∈ exchangesOf (.asked ⟨.insertLock (newLock r lockId), none⟩ :: (t₁ ++ t₂)),
      x.looks = false := by
    intro x hx
    rw [exchangesOf, List.filterMap_cons, List.filterMap_append] at hx
    rcases List.mem_cons.1 hx with rfl | hx
    · rfl
    · exact (List.mem_append.1 hx).elim (asks'.looks x) (stamps'.looks x)
  refine ⟨.asked ⟨.insertLock (newLock r lockId), none⟩ :: (t₁ ++ t₂) ++ t₃, o, e, time, ?_,
    ⟨_, rfl⟩, ?_, ?_⟩
  · rw [request, ht, Op.check_ok_bind, List.cons_append, List.append_assoc]
    refine .ask held.symm ?_
    simp only [revoke, if_true]
    refine .bind asks ?_
    rw [if_pos rfl, name, Op.check_ok_bind]
    exact .bind stamps ends
  · rwa [looksAt_append, looksAt_of_asked before other, slept_of_asked before]
  · cases concludes with
    | timedOut => exact .timedOut
    | released acquires =>
      exact .released fun given gone frees =>
        acquires given _ (((frees.past _).after _).after _)

end Locking

namespace Locking

attribute [local instance] Regex.runner

def vacant : Store :=
  (Store.empty.upsertGrant (.ofNanos 0) ⟨⟨"OSL", "kim", "*", "*"⟩, "*"⟩).2

def occupied : Store := (vacant.insertLock (.ofNanos 0) ⟨"a", queuedKey, {}⟩).2

-- The holder gives the lock up once something has been seen.
def parking (gone : List Sight → Bool) : Fate where
  answer t c := ((if gone t then vacant else occupied).apply (.ofNanos 0) c).1
  clock t := 7 + slept t
  fired _ := false

lemma parking_steady (gone : List Sight → Bool) : (parking gone).Steady 7 :=
  ⟨fun _ => rfl, fun _ => rfl⟩

lemma parking_frees {gone : List Sight → Bool} {given : Nat}
    (stays : ∀ t u, gone t = true → gone (t ++ u) = true)
    (since : ∀ t, gone t = true → given ≤ 7 + slept t)
    (later : ∀ t, given < 7 + slept t → gone t = true) :
    (parking gone).Frees queuedKey given (gone · = true) where
  held t here := by
    simp only [parking, if_neg here]
    rfl
  free t left := ⟨vacant, .ofNanos 0, rfl, fun c => by simp only [parking, if_pos left]⟩
  stays := stays
  since := since
  later := later

-- The lock is given up while somebody sleeps, or as soon as it has been found held, in no time.
def afterNap (t : List Sight) : Bool := 300000000 ≤ slept t

def atOnce (t : List Sight) : Bool := !t.isEmpty

lemma afterNap_frees : (parking afterNap).Frees queuedKey 300000007 (afterNap · = true) := by
  refine parking_frees (fun t u left => ?_) (fun t left => ?_) fun t late => ?_
  · rw [afterNap, decide_eq_true_eq] at left ⊢
    rw [slept_append]
    omega
  · rw [afterNap, decide_eq_true_eq] at left
    omega
  · rw [afterNap, decide_eq_true_eq]
    omega

lemma atOnce_frees : (parking atOnce).Frees queuedKey 7 (atOnce · = true) := by
  refine parking_frees (fun t u left => ?_) (fun t _ => Nat.le_add_right 7 _) fun t late => ?_
  · cases t with
    | nil => cases left
    | cons s t => rfl
  · cases t with
    | nil => cases Nat.lt_irrefl 7 late
    | cons s t => rfl

lemma afterNap_contends :
    Contends (parking afterNap) (.revoking { key := queuedKey } 1) (some "kim") "b" where
  revoke := rfl
  held := rfl
  allowed := ⟨_, sees_mayRevoke_queued, rfl, trivial⟩

lemma atOnce_contends :
    Contends (parking atOnce) (.revoking { key := queuedKey } 0) (some "kim") "b" where
  revoke := rfl
  held := rfl
  allowed := ⟨_, sees_mayRevoke_queued, rfl, trivial⟩

end Locking

end LockRegistry
