import LockRegistry.Authority
import LockRegistry.Config

/-! Requesting, releasing, revoking and listing locks. A request that finds its key held may have
its holder asked to go, wait, and try once more; in between, another session may take the key. -/

namespace LockRegistry

namespace Locking

variable [Regex.Engine]

def event (level : LogLevel) (message : String) (fields : List (String × LogValue)) : LogEvent where
  level := level
  source := .manager
  message := message
  fields := fields

def keyField (key : LockKey) : String × LogValue := ("key", .shown key.text)

def checkedTimeout (seconds : Int) : Except ArgumentError Nat :=
  if seconds < 0 then .error (.negativeTimeout seconds) else .ok (seconds.toNat * 1000000000)

def pollLength (config : LockConfig) : Nat := config.pollIntervalMs * 1000000

def reportHolder (key : LockKey) : Op AcquireOutcome := do
  let holder : Option Lock ← .ask (.findLock key)
  return .lockHeld (holder.bind (·.session.sessionUser)) (holder.map (·.acquireTime))

def stamp (key : LockKey) (user : String) (timeout : Nat) : Op Unit := do
  let holder : Option Lock ← .ask (.findLock key)
  match holder with
  | none => return ()
  | some holder =>
    let stamped : Bool ← .ask (.markRevocation key holder.lockId user)
    .emit (event .info "Lock revocation requested"
      [keyField key, ("lock_id", .shown holder.lockId), ("requested_by", .shown user),
        ("stamped", .bool stamped), ("timeout_secs", .int (Wait.seconds timeout))])

def retry (lock : NewLock) (waitedMs : Nat) : Op AcquireOutcome := do
  let inserted : Option Lock ← .ask (.insertLock lock)
  match inserted with
  | some row =>
    .emit (event .info "Lock acquired after revocation"
      [keyField lock.key, ("lock_id", .shown row.lockId), ("waited_ms", .int waitedMs)])
    return .acquired row.lockId
  | none =>
    .emit (event .warn "Lock claimed by another session after revocation" [keyField lock.key])
    reportHolder lock.key

def awaitHolder (config : LockConfig) (lock : NewLock) (timeout : Nat) : Op AcquireOutcome := do
  let started ← .now
  let ending ← .await lock.key timeout (pollLength config)
  let ended ← .now
  let waitedMs := Wait.millis (ended - started)
  match ending with
  | .released => retry lock waitedMs
  | .timedOut =>
    .emit (event .warn "Lock revocation timed out"
      [keyField lock.key, ("waited_ms", .int waitedMs)])
    return .revokeTimedOut waitedMs

def revokeHolder (config : LockConfig) (lock : NewLock) (caller : Option String) (timeout : Nat) :
    Op AcquireOutcome := do
  let key := lock.key
  if ← Authority.mayRevoke key.office caller key.project key.application then
    let user ← .check (Field.user.normalize (caller.getD ""))
    stamp key user timeout
    awaitHolder config lock timeout
  else
    .emit (event .warn "Lock revocation denied" [keyField key, ("user_id", .optional caller)])
    return .revokeDenied

def request (config : LockConfig) (r : LockRequest) (caller : Option String) (freshId : String) :
    Op AcquireOutcome := do
  let timeout ← .check (checkedTimeout r.revokeTimeoutSecs)
  let lock : NewLock := ⟨freshId, r.key, r.session⟩
  let inserted : Option Lock ← .ask (.insertLock lock)
  match inserted with
  | some row =>
    .emit (event .info "Lock acquired" [keyField r.key, ("lock_id", .shown row.lockId)])
    return .acquired row.lockId
  | none =>
    if r.revokeExisting then revokeHolder config lock caller timeout
    else
      .emit (event .debug "Lock already held" [keyField r.key])
      reportHolder r.key

def release (office lockId : String) : Op Bool := do
  let office ← .check (Field.office.normalize office)
  let lockId := Text.trim lockId
  if lockId.isEmpty then .fail (.argument .blankLockId)
  else
    let released : Bool ← .ask (.deleteLockNamed office lockId)
    let fields := [("office_id", .shown office), ("lock_id", .text lockId)]
    if released then
      .emit (event .info "Lock released" fields)
    else
      .emit (event .debug "No lock to release" fields)
    return released

def denied (caller : Option String) (key : LockKey) : LockError :=
  .revokeDenied (caller.getD "<anonymous>") key.text

def revoke (key : LockKey) (caller : Option String) : Op Bool := do
  if ← Authority.mayRevoke key.office caller key.project key.application then
    let removed : Option Lock ← .ask (.deleteLock key)
    match removed with
    | some lock =>
      .emit (event .info "Lock revoked"
        [keyField key, ("lock_id", .shown lock.lockId), ("revoked_by", .optional caller)])
      return true
    | none =>
      .emit (event .debug "No lock to revoke" [keyField key])
      return false
  else
    .emit (event .warn "Lock revocation denied" [keyField key, ("user_id", .optional caller)])
    .fail (denied caller key)

def isLocked (key : LockKey) : Op Bool := .ask (.lockExists key)

def list (filter : CatalogFilter) (zone : Zone) : Op (List LockListing) := do
  let locks : List Lock ← .ask (.listLocks filter)
  return locks.map (LockListing.ofLock zone)

def find (office lockId : String) : Op (Option Lock) := do
  let office ← .check (Field.office.normalize office)
  .ask (.findLockNamed office (Text.trim lockId))

def pendingRevocation (office lockId : String) : Op (Option RevocationRequest) := do
  let lock ← find office lockId
  return lock.bind (·.pendingRevocation)

end Locking

end LockRegistry
