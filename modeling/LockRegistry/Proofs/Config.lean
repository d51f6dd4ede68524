import LockRegistry.Proofs.Locking.Schedule
import LockRegistry.Proofs.Text.Numeral
import LockRegistry.Regex.Runner

namespace LockRegistry

open Text (Numeral)

inductive Environment.Gives (env : Environment) (name : String) (least greatest default : Int) :
    Int → Prop
  | denoted {raw : String} {n : Int} (set : env.get? name = some raw)
      (numeral : Numeral (least < 0) (Text.trim raw).toList n) (above : least ≤ n)
      (below : n ≤ greatest) : Gives env name least greatest default n
  | default (unreadable : ∀ raw n, env.get? name = some raw →
      Numeral (least < 0) (Text.trim raw).toList n → ¬ (least ≤ n ∧ n ≤ greatest)) :
      Gives env name least greatest default default

namespace Setting

variable {s : Setting} {env : Environment} {raw : String}

lemma read_of_unset (unset : env.get? s.name = none) : (s.read env).1 = s.fallback := by
  simp only [read, unset]

lemma read_of_denoted {i : Int} (set : env.get? s.name = some raw)
    (denoted : Text.integer? s.range (Text.trim raw) = some i) : (s.read env).1 = i := by
  simp only [read, set, denoted]

lemma read_of_unreadable (set : env.get? s.name = some raw)
    (unreadable : Text.integer? s.range (Text.trim raw) = none) : (s.read env).1 = s.fallback := by
  simp only [read, set, unreadable]

lemma gives_read (s : Setting) (env : Environment) :
    env.Gives s.name s.range.least s.range.greatest s.fallback (s.read env).1 := by
  cases set : env.get? s.name with
  | none =>
    rw [read_of_unset set]
    exact .default fun raw n set' => by cases set.symm.trans set'
  | some raw =>
    cases denoted : Text.integer? s.range (Text.trim raw) with
    | none =>
      rw [read_of_unreadable set denoted]
      refine .default fun raw' n set' numeral within => ?_
      obtain rfl := Option.some.inj (set.symm.trans set')
      cases denoted.symm.trans (Text.integer?_eq_some.2 ⟨numeral, within⟩)
    | some i =>
      rw [read_of_denoted set denoted]
      obtain ⟨numeral, above, below⟩ := Text.integer?_eq_some.1 denoted
      exact .denoted set numeral above below

lemma gives_iff (s : Setting) (env : Environment) (n : Int) :
    env.Gives s.name s.range.least s.range.greatest s.fallback n ↔ n = (s.read env).1 := by
  constructor
  · intro gives
    cases gives with
    | denoted set numeral above below =>
      exact (read_of_denoted set (Text.integer?_eq_some.2 ⟨numeral, above, below⟩)).symm
    | default unreadable =>
      cases set : env.get? s.name with
      | none => exact (read_of_unset set).symm
      | some raw =>
        refine (read_of_unreadable set ?_).symm
        refine Option.eq_none_iff_forall_ne_some.2 fun i denoted => ?_
        obtain ⟨numeral, within⟩ := Text.integer?_eq_some.1 denoted
        exact unreadable raw i set numeral within
  · rintro rfl
    exact s.gives_read env

end Setting

section Timely

variable {α β : Type} {x : Except ArgumentError α}

def Timely (x : Except ArgumentError α) : Prop := ∀ seconds, x ≠ .error (.negativeTimeout seconds)

lemma Timely.bind {f : α → Except ArgumentError β} (h : Timely x) (hf : ∀ a, Timely (f a)) :
    Timely (x >>= f) := by
  cases x with
  | ok a => exact hf a
  | error e => exact fun seconds same => h seconds (congrArg Except.error (Except.error.inj same))

lemma Timely.map (h : Timely x) (f : α → β) : Timely (x.map f) := by
  cases x with
  | ok a => exact fun _ => nofun
  | error e => exact fun seconds same => h seconds (congrArg Except.error (Except.error.inj same))

lemma timely_ok (a : α) : Timely (.ok a) := fun _ => nofun

lemma timely_normalize (f : Field) (raw : String) : Timely (f.normalize raw) := by
  refine Timely.map (fun seconds => ?_) _
  unfold Field.check
  split
  · exact nofun
  · split
    · exact nofun
    · split <;> exact nofun

variable [Regex.Engine]

lemma timely_ofString (raw : String) : Timely (Mask.ofString raw) := by
  intro seconds
  unfold Mask.ofString
  dsimp only
  split
  · exact nofun
  · split <;> exact nofun

lemma timely_covers (g : Grant) (office project application : String) :
    Timely (g.covers office project application) := by
  unfold Grant.covers
  split
  · exact timely_ok _
  · refine (timely_ofString _).bind fun m => ?_
    split
    · exact timely_ok _
    · refine (timely_ofString _).bind fun m => ?_
      split
      · exact timely_ok _
      · exact (timely_ofString _).bind fun m => timely_ok _

namespace Authority

lemma timely_firstCovering (office project application : String) (grants : List Grant) :
    Timely (firstCovering office project application grants) := by
  induction grants with
  | nil => exact timely_ok none
  | cons g rest ih =>
    refine (timely_covers g office project application).bind fun covered => ?_
    cases covered with
    | true => exact timely_ok (some g)
    | false => exact ih

omit [Regex.Engine] in
lemma timely_caller? (user : Option String) : Timely (caller? user) := by
  cases user with
  | none => exact timely_ok none
  | some raw =>
    rw [caller?]
    split
    · exact timely_ok none
    · exact (timely_normalize .user raw).map some

omit [Regex.Engine] in
lemma timely_question (office : String) (user : Option String) (project application : String) :
    Timely (Question.ofRaw office user project application) := by
  refine (timely_normalize .office office).bind fun o => ?_
  refine (timely_normalize .project project).bind fun p => ?_
  refine (timely_normalize .application application).bind fun a => ?_
  exact (timely_caller? user).bind fun caller => timely_ok _

lemma Asks.timely {office project application : String} {user : Option String} {l : List Exchange}
    {e : ArgumentError} (h : Asks office user project application l (.error (.argument e)))
    (seconds : Int) : e ≠ .negativeTimeout seconds := by
  rintro rfl
  cases h with
  | refused h => exact timely_question _ _ _ _ seconds h
  | unreadable _ _ verdict => exact timely_firstCovering _ _ _ _ seconds verdict

end Authority

end Timely

namespace Locking

variable {config : LockConfig} {lock : NewLock} {r : LockRequest} {caller : Option String}
  {lockId : String} {timeout length : Nat} {fired : Bool} {t : List Sight} {l : List Exchange}
  {o : Except LockError AcquireOutcome}

lemma awaitHolder_naps (h : (awaitHolder config lock timeout).Sees t o)
    (positive : 0 < pollLength config) (mem : .nap length fired ∈ t) :
    0 < length ∧ length ≤ pollLength config := by
  obtain ⟨started, t, rfl, ha⟩ := Op.sees_now_bind.1 h
  have naps {t₁ : List Sight} {e : Except LockError Wait.Ending}
      (waits : Traces Wait.action
        { key := lock.key, timeout := timeout, poll := pollLength config } t₁ e)
      (mem : .nap length fired ∈ t₁) : 0 < length ∧ length ≤ pollLength config := by
    obtain ⟨start, l, rfl, rounds⟩ := Wait.traces_iff_rounds.1 waits
    obtain ⟨p, q, split⟩ := List.append_of_mem ((List.mem_cons.1 mem).resolve_left nofun)
    obtain ⟨pos, le, -⟩ := rounds.naps positive split
    exact ⟨pos, le⟩
  replace mem := (List.mem_cons.1 mem).resolve_left nofun
  rcases Op.sees_await_bind.1 ha with ⟨ending, t₁, t₂, rfl, waits, hk⟩ | ⟨e, -, waits⟩
  · rcases List.mem_append.1 mem with mem | mem
    · exact naps waits mem
    · -- after the wait there is no nap
      obtain ⟨ended, t₂, rfl, hn⟩ := Op.sees_now_bind.1 hk
      replace mem := (List.mem_cons.1 mem).resolve_left nofun
      have asked : ∀ s ∈ t₂, ∃ x, s = .asked x := by
        cases ending with
        | released => exact (timeless_retry lock _).asked hn
        | timedOut => exact (Op.Timeless.log _ (.done _)).asked hn
      obtain ⟨x, ⟨⟩⟩ := asked _ mem
  · exact naps waits mem

variable [Regex.Engine]

lemma Requests.timely (h : Requests r caller lockId l o) (timeout : 0 ≤ r.revokeTimeoutSecs)
    (seconds : Int) : o ≠ .error (.argument (.negativeTimeout seconds)) := by
  rintro rfl
  cases h with
  | refused h =>
    rw [checkedTimeout, if_neg (Int.not_lt.2 timeout)] at h
    cases h
  | revoking _ h =>
    cases h with
    | failed asks => exact asks.timely seconds rfl
    | unnamed _ name => exact timely_normalize .user _ seconds name
    | allowed _ _ _ wait => cases wait

lemma request_naps (h : (request config r caller lockId).Sees t o)
    (positive : 0 < pollLength config) (mem : .nap length fired ∈ t) :
    0 < length ∧ length ≤ pollLength config := by
  rcases request_sees h with ⟨asked, -⟩ | ⟨-, timeout, t₀, t₁, -, rfl, asked, awaits⟩
  · obtain ⟨x, ⟨⟩⟩ := asked _ mem
  · replace mem := (List.mem_cons.1 mem).resolve_left nofun
    rcases List.mem_append.1 mem with mem | mem
    · obtain ⟨x, ⟨⟩⟩ := asked _ mem
    · exact awaitHolder_naps awaits positive mem

lemma request_asks (h : (request config r caller lockId).Sees t o)
    (timeout : 0 ≤ r.revokeTimeoutSecs) :
    ∃ inserted t', t = .asked ⟨.insertLock (newLock r lockId), inserted⟩ :: t' := by
  rcases Op.sees_check_bind.1 h with ⟨timeout, -, h₁⟩ | ⟨e, he, -, -⟩
  · obtain ⟨inserted, t', rfl, -⟩ := Op.sees_ask_bind.1 h₁
    exact ⟨inserted, t', rfl⟩
  · rw [checkedTimeout, if_neg (Int.not_lt.2 timeout)] at he
    cases he

end Locking

namespace LockConfig

lemma pollIntervalMs_ofEnvironment (env : Environment) :
    10 ≤ (ofEnvironment env).1.pollIntervalMs ∧ (ofEnvironment env).1.pollIntervalMs ≤ 1000 :=
  pollIntervalMs_clamped (Setting.pollInterval.read env).1.toNat (Setting.revokeTimeout.read env).1

variable [Regex.Engine]

/-- Each numeric variable gives the number that it denotes or its default, and a request with the
default timeout comes as far as the store. -/
theorem configured (env : Environment) :
    ∃ poll timeout connections : Int,
      (∀ n, env.Gives "LOCK_REVOKE_POLL_INTERVAL_MS" 0 (2 ^ 64 - 1) 250 n ↔ n = poll) ∧
      (∀ n, env.Gives "LOCK_DEFAULT_REVOKE_TIMEOUT_SECS" (-2 ^ 63) (2 ^ 63 - 1) 10 n ↔
        n = timeout) ∧
      (∀ n, env.Gives "DB_MAX_CONNECTIONS" 0 (2 ^ 32 - 1) 20 n ↔ n = connections) ∧
      (ofEnvironment env).1 = ⟨(max 10 (min poll 1000)).toNat, max timeout 0⟩ ∧
      (DatabaseConfig.ofEnvironment env).1 = ⟨env.get? "DATABASE_URL", connections⟩ ∧
      ∀ (r : LockRequest) (caller : Option String) (lockId : String) (t : List Sight)
        (o : Except LockError AcquireOutcome),
        r.revokeTimeoutSecs = (ofEnvironment env).1.defaultRevokeTimeoutSecs →
        (Locking.request (ofEnvironment env).1 r caller lockId).Sees t o →
          (∃ inserted t', t = .asked ⟨.insertLock (Locking.newLock r lockId), inserted⟩ :: t') ∧
          (∀ seconds, o ≠ .error (.argument (.negativeTimeout seconds))) ∧
          ∀ length fired, .nap length fired ∈ t → 0 < length ∧ length ≤ 1000000000 := by
  have poll := Setting.pollInterval.gives_iff env
  have timeout := Setting.revokeTimeout.gives_iff env
  have connections := Setting.maxConnections.gives_iff env
  refine ⟨_, _, _, poll, timeout, connections, ?_, rfl, ?_⟩
  · have within : ((max 10 (min (Setting.pollInterval.read env).1 1000)).toNat : Nat) =
        clampPollMs (Setting.pollInterval.read env).1.toNat := by
      simp only [clampPollMs, minPollMs, maxPollMs]
      omega
    rw [within]
    rfl
  · intro r caller lockId t o default sees
    have enough : 0 ≤ r.revokeTimeoutSecs := default ▸ Int.le_max_right _ _
    obtain ⟨least, greatest⟩ := pollIntervalMs_ofEnvironment env
    have positive : 0 < Locking.pollLength (ofEnvironment env).1 := by
      rw [Locking.pollLength]
      omega
    refine ⟨Locking.request_asks sees enough,
      (Locking.request_makes (runs_iff.2 ⟨t, sees, rfl⟩)).timely enough, fun length fired mem => ?_⟩
    obtain ⟨pos, le⟩ := Locking.request_naps sees positive mem
    rw [Locking.pollLength] at le
    exact ⟨pos, by omega⟩

end LockConfig

namespace LockConfig

attribute [local instance] Regex.runner

def hurried : Environment :=
  [("LOCK_REVOKE_POLL_INTERVAL_MS", "5000"), ("LOCK_DEFAULT_REVOKE_TIMEOUT_SECS", " +2 "),
    ("DB_MAX_CONNECTIONS", "4294967296")]

lemma ofEnvironment_hurried : (ofEnvironment hurried).1 = ⟨1000, 2⟩ := by decide +kernel

def hurriedRequest : LockRequest := .revoking { key := Locking.queuedKey } 2

def hurriedWait : List Sight :=
  Wait.finding Locking.queuedKey ++ [.clock 8] ++ [.nap 1000000000 true]

lemma rounds_hurried :
    Wait.Rounds Locking.queuedKey 1000000000 (Wait.deadline? 7 2000000000) hurriedWait
      (.error .cancelled) := by
  have bound : Wait.deadline? 7 2000000000 = some 2000000007 := by decide
  have pause : Wait.Pause 1000000000 (some 2000000007) [.clock 8] 1000000000 :=
    .bounded (d := 2000000007) (by decide)
  exact bound ▸ .woken pause

def hurriedSights : List Sight :=
  .asked ⟨.insertLock (Locking.newLock hurriedRequest "b"), none⟩ ::
    ([.asked ⟨.grantsOf "kim", [Locking.queuedGrant]⟩] ++
      ([.asked ⟨.findLock Locking.queuedKey, none⟩] ++ .clock 5 :: .clock 7 :: hurriedWait))

lemma sees_hurried :
    (Locking.request (ofEnvironment hurried).1 hurriedRequest (some "kim") "b").Sees hurriedSights
      (.error .cancelled) := by
  rw [ofEnvironment_hurried]
  refine .call (c := .insertLock (Locking.newLock hurriedRequest "b")) rfl none
    (Locking.sees_mayRevoke_queued.andThen ?_)
  refine Op.Sees.andThen (a := ())
    (.call (c := .findLock Locking.queuedKey) rfl none (.done rfl)) (.clock rfl ?_)
  exact Op.sees_await_bind.2 (.inr ⟨_, rfl, Wait.traces_iff_rounds.2 ⟨7, _, rfl, rounds_hurried⟩⟩)

theorem configured_hurried :
    (ofEnvironment hurried).1 = ⟨1000, 2⟩ ∧
      hurried.Gives "LOCK_DEFAULT_REVOKE_TIMEOUT_SECS" (-2 ^ 63) (2 ^ 63 - 1) 10 2 ∧
      hurried.Gives "DB_MAX_CONNECTIONS" 0 (2 ^ 32 - 1) 20 20 ∧
      (Locking.request (ofEnvironment hurried).1 hurriedRequest (some "kim") "b").Sees hurriedSights
        (.error .cancelled) ∧
      ∀ length fired, .nap length fired ∈ hurriedSights → 0 < length ∧ length ≤ 1000000000 := by
  obtain ⟨poll, timeout, connections, -, gives, gives', config, database, requests⟩ :=
    configured hurried
  obtain rfl : connections = 20 :=
    (congrArg DatabaseConfig.maxConnections database).symm.trans (by decide +kernel)
  obtain rfl : timeout = 2 := by
    have kept := congrArg LockConfig.defaultRevokeTimeoutSecs config
    rw [ofEnvironment_hurried] at kept
    dsimp only at kept
    omega
  obtain ⟨-, -, naps⟩ :=
    requests hurriedRequest (some "kim") "b" _ _ (by decide +kernel) sees_hurried
  exact ⟨ofEnvironment_hurried, (gives 2).2 rfl, (gives' 20).2 rfl, sees_hurried, naps⟩

end LockConfig

end LockRegistry
