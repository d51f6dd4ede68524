import LockRegistry.Proofs.Op.Mirrors
import LockRegistry.Proofs.Operation
import LockRegistry.Regex.Runner

/-! What sessions say about themselves decides nothing. -/

namespace LockRegistry

def LockRequest.bare (r : LockRequest) : LockRequest := { r with session := {} }

def AcquireOutcome.bare : AcquireOutcome → AcquireOutcome
  | lockHeld _ acquiredAt => lockHeld none acquiredAt
  | o => o

def LockListing.bare (l : LockListing) : LockListing := { l with lock := l.lock.bare }

namespace Operation

def bare : Operation → Operation
  | request config r caller lockId => request config r.bare caller lockId
  | o => o

end Operation

def Value.bare : Value → Value
  | outcome o => outcome o.bare
  | lock l => lock (l.map Lock.bare)
  | locks l => locks (l.map LockListing.bare)
  | v => v

namespace Authority

open Op (Mirrors)

variable {office project application officeMask projectMask applicationMask user : String}

variable [Regex.Engine]

lemma mirrors_mayRevoke (office : String) (user : Option String) (project application : String) :
    Mirrors id (mayRevoke office user project application)
      (mayRevoke office user project application) := by
  refine (Mirrors.check _).bind fun office => (Mirrors.check _).bind fun project =>
    (Mirrors.check _).bind fun application => (Mirrors.check _).bind fun caller => ?_
  cases caller with
  | none => exact .log _ (.ok false)
  | some user =>
    refine .ask_bind (.grantsOf user) fun grants => (Mirrors.check _).bind fun found => ?_
    cases found with
    | none => exact .ok false
    | some grant => exact .log _ (.ok true)

lemma mirrors_allow (office officeMask projectMask applicationMask user : String) :
    Mirrors id (allow office officeMask projectMask applicationMask user)
      (allow office officeMask projectMask applicationMask user) :=
  (Mirrors.check _).bind fun _ => (Mirrors.check _).bind fun new =>
    .ask_bind (.upsertGrant new) fun grant => .log _ (.ok grant)

lemma mirrors_disallow (office user projectMask applicationMask : String) :
    Mirrors id (disallow office user projectMask applicationMask)
      (disallow office user projectMask applicationMask) := by
  refine (Mirrors.check _).bind fun key => .ask_bind (.deleteGrant key) fun removed => ?_
  cases removed <;> exact .log _ (.ok ())

lemma mirrors_removeAll (office : String) (officeMask applicationMask : Option String)
    (user : String) :
    Mirrors id (removeAll office officeMask applicationMask user)
      (removeAll office officeMask applicationMask user) :=
  (Mirrors.check _).bind fun office => (Mirrors.check _).bind fun user =>
    (Mirrors.check _).bind fun officeMask => (Mirrors.check _).bind fun applicationMask =>
      .ask_bind (.deleteGrants office officeMask applicationMask user) fun removed =>
        .log _ (.ok removed)

end Authority

namespace Locking

open Op (Mirrors)

lemma mirrors_reportHolder (key : LockKey) :
    Mirrors AcquireOutcome.bare (reportHolder key) (reportHolder key) := by
  refine .ask_bind (.findLock key) fun holder => ?_
  cases holder with
  | none => exact .ok _
  | some holder =>
    exact .ok (AcquireOutcome.lockHeld holder.session.sessionUser (some holder.acquireTime))

lemma mirrors_stamp (key : LockKey) (user : String) (timeout : Nat) :
    Mirrors id (stamp key user timeout) (stamp key user timeout) := by
  refine .ask_bind (.findLock key) fun holder => ?_
  cases holder with
  | none => exact .ok ()
  | some holder =>
    exact .ask_bind (.markRevocation key holder.lockId user) fun stamped => .log _ (.ok ())

lemma mirrors_retry (lock : NewLock) (waitedMs : Nat) :
    Mirrors AcquireOutcome.bare (retry lock waitedMs) (retry lock.bare waitedMs) := by
  refine .ask_bind (.insertLock lock) fun inserted => ?_
  cases inserted with
  | none => exact .log _ (mirrors_reportHolder lock.key)
  | some row => exact .log _ (.ok (AcquireOutcome.acquired row.lockId))

lemma mirrors_awaitHolder (config : LockConfig) (lock : NewLock) (timeout : Nat) :
    Mirrors AcquireOutcome.bare (awaitHolder config lock timeout)
      (awaitHolder config lock.bare timeout) := by
  refine .clock fun started => .await_bind _ _ _ fun ending => .clock fun ended => ?_
  cases ending with
  | released => exact mirrors_retry lock _
  | timedOut => exact .log _ (.ok (AcquireOutcome.revokeTimedOut _))

lemma mirrors_release (office lockId : String) :
    Mirrors id (release office lockId) (release office lockId) := by
  refine (Mirrors.check _).bind fun office => ?_
  dsimp only
  split
  · exact .error _
  · refine .ask_bind (.deleteLockNamed office (Text.trim lockId)) fun released => ?_
    cases released <;> exact .log _ (.ok _)

lemma mirrors_list (filter : CatalogFilter) (zone : Zone) :
    Mirrors (List.map LockListing.bare) (list filter zone) (list filter zone) := by
  refine .ask_bind (.listLocks filter) fun locks => ?_
  have same : (locks.map Lock.bare).map (LockListing.ofLock zone) =
      (locks.map (LockListing.ofLock zone)).map LockListing.bare := by
    rw [List.map_map, List.map_map]
    rfl
  change Mirrors _ (.done (.ok (locks.map _))) (.done (.ok ((locks.map Lock.bare).map _)))
  rw [same]
  exact .ok _

lemma mirrors_find (office lockId : String) :
    Mirrors (Option.map Lock.bare) (find office lockId) (find office lockId) :=
  (Mirrors.check _).bind fun office =>
    .ask (.findLockNamed office (Text.trim lockId))

lemma mirrors_pendingRevocation (office lockId : String) :
    Mirrors id (pendingRevocation office lockId) (pendingRevocation office lockId) :=
  (mirrors_find office lockId).bind fun found => by
    cases found <;> exact .ok _

variable [Regex.Engine]

lemma mirrors_revokeHolder (config : LockConfig) (lock : NewLock) (caller : Option String)
    (timeout : Nat) :
    Mirrors AcquireOutcome.bare (revokeHolder config lock caller timeout)
      (revokeHolder config lock.bare caller timeout) := by
  refine (Authority.mirrors_mayRevoke ..).bind fun allowed => ?_
  cases allowed with
  | false => exact .log _ (.ok AcquireOutcome.revokeDenied)
  | true =>
    exact (Mirrors.check _).bind fun user => (mirrors_stamp ..).bind fun _ =>
      mirrors_awaitHolder config lock timeout

lemma mirrors_request (config : LockConfig) (r : LockRequest) (caller : Option String)
    (freshId : String) :
    Mirrors AcquireOutcome.bare (request config r caller freshId)
      (request config r.bare caller freshId) := by
  refine (Mirrors.check _).bind fun timeout =>
    .ask_bind (.insertLock ⟨freshId, r.key, r.session⟩) fun inserted => ?_
  cases inserted with
  | some row => exact .log _ (.ok (AcquireOutcome.acquired row.lockId))
  | none =>
    change Mirrors _ (if r.revokeExisting then _ else _) (if r.revokeExisting then _ else _)
    split
    · exact mirrors_revokeHolder config ⟨freshId, r.key, r.session⟩ caller timeout
    · exact .log _ (mirrors_reportHolder r.key)

lemma mirrors_revoke (key : LockKey) (caller : Option String) :
    Mirrors id (revoke key caller) (revoke key caller) := by
  refine (Authority.mirrors_mayRevoke ..).bind fun allowed => ?_
  cases allowed with
  | false => exact .log _ (.error _)
  | true =>
    refine .ask_bind (.deleteLock key) fun removed => ?_
    cases removed with
    | none => exact .log _ (.ok false)
    | some lock => exact .log _ (.ok true)

end Locking

namespace Operation

open Op (Mirrors)

variable [Regex.Engine]

lemma mirrors (o : Operation) : Mirrors Value.bare o.op o.bare.op := by
  cases o with
  | request config r caller lockId =>
    exact (Locking.mirrors_request config r caller lockId).map fun _ => rfl
  | release office lockId => exact (Locking.mirrors_release office lockId).map fun _ => rfl
  | revoke key caller => exact (Locking.mirrors_revoke key caller).map fun _ => rfl
  | isLocked key =>
    exact Mirrors.map (f := id) (.ask (.lockExists key)) fun _ => rfl
  | listLocks filter zone => exact (Locking.mirrors_list filter zone).map fun _ => rfl
  | find office lockId => exact (Locking.mirrors_find office lockId).map fun _ => rfl
  | pendingRevocation office lockId =>
    exact (Locking.mirrors_pendingRevocation office lockId).map fun _ => rfl
  | allow office officeMask projectMask applicationMask user =>
    exact (Authority.mirrors_allow ..).map fun _ => rfl
  | update office user projectMask applicationMask officeMask allowed =>
    refine Mirrors.map (f := id) ?_ fun _ => rfl
    cases allowed with
    | true => exact (Authority.mirrors_allow ..).bind fun _ => .ok ()
    | false => exact Authority.mirrors_disallow ..
  | removeAll office officeMask applicationMask user =>
    exact (Authority.mirrors_removeAll ..).map fun _ => rfl
  | mayRevoke office user project application =>
    exact (Authority.mirrors_mayRevoke ..).map fun _ => rfl
  | listGrants filter =>
    exact Mirrors.map (f := id) (.ask (.listGrants filter)) fun _ => rfl

end Operation

namespace Sessions

variable {ι : Type} [DecidableEq ι] {σ σ' : Sessions ι Value}

structure Mirrors (σ σ' : Sessions ι Value) : Prop where
  store : σ'.store = σ.store.bare
  op : ∀ i, (σ.op i).Mirrors Value.bare (σ'.op i)

variable [Regex.Engine]

lemma Mirrors.step (h : σ.Mirrors σ') (t : Turn ι) : (σ.step t).Mirrors (σ'.step t) := by
  obtain ⟨op, store⟩ := (h.op t.session).step σ.store t
  rw [← h.store] at op store
  refine ⟨store, fun i => ?_⟩
  by_cases own : i = t.session
  · subst own
    simpa [Sessions.step] using op
  · simpa [Sessions.step, own] using h.op i

lemma Mirrors.run (h : σ.Mirrors σ') (ts : List (Turn ι)) : (σ.run ts).Mirrors (σ'.run ts) := by
  induction ts generalizing σ σ' with
  | nil => exact h
  | cons t ts ih => exact ih (h.step t)

def opened (s : Store) (calls : ι → Operation) : Sessions ι Value := ⟨s, fun i => (calls i).op⟩

omit [DecidableEq ι] in
lemma mirrors_opened (s : Store) (calls : ι → Operation) :
    (opened s calls).Mirrors (opened s.bare fun i => (calls i).bare) :=
  ⟨rfl, fun i => (calls i).mirrors⟩

/-- Two runs that differ in what sessions say about themselves differ in nothing else. -/
theorem session_blindness {s s' : Store} {calls calls' : ι → Operation}
    (stores : s.bare = s'.bare) (same : ∀ i, (calls i).bare = (calls' i).bare)
    (h : List (Turn ι)) :
    ((opened s calls).run h).store.bare = ((opened s' calls').run h).store.bare ∧
      ∀ i, (((opened s calls).run h).result? i).map (Except.map Value.bare) =
        (((opened s' calls').run h).result? i).map (Except.map Value.bare) := by
  have first := (mirrors_opened s calls).run h
  have second := (mirrors_opened s' calls').run h
  rw [← stores, ← funext same] at second
  exact ⟨first.store.symm.trans second.store,
    fun i => (first.op i).result?.symm.trans (second.op i).result?⟩

end Sessions

namespace Sessions

attribute [local instance] Regex.runner

def gateKey : LockKey := ⟨"OSL", "gate", "editor"⟩

def visit (user : String) : Fin 2 → Operation
  | 0 => .request ⟨250, 10⟩ { key := gateKey, session := { sessionUser := some user } } none "a"
  | 1 => .request ⟨250, 10⟩ { key := gateKey } none "b"

theorem session_blindness_visit :
    let turns : List (Turn (Fin 2)) := [0, 0, 1, 1, 1].map fun i => ⟨i, .ofNanos 0, 0, false⟩
    let reported (user : String) := ((opened .empty (visit user)).run turns).result? 1
    reported "ann" = some (.ok (.outcome (.lockHeld (some "ann") (some (.ofNanos 0))))) ∧
      reported "kim" = some (.ok (.outcome (.lockHeld (some "kim") (some (.ofNanos 0))))) ∧
      (reported "ann").map (Except.map Value.bare) =
        (reported "kim").map (Except.map Value.bare) := by
  intro turns reported
  have same : ∀ i, (visit "ann" i).bare = (visit "kim" i).bare := fun | 0 => rfl | 1 => rfl
  obtain ⟨-, results⟩ := session_blindness (s := .empty) rfl same turns
  exact ⟨rfl, rfl, results 1⟩

end Sessions

end LockRegistry
