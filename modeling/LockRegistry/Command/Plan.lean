import LockRegistry.Command.Answer
import LockRegistry.Locking

/-! What each command does: an operation on the store whose value is the answer. -/

namespace LockRegistry

structure Invocation where
  user : Option String := none
  format : OutputFormat := .text
  config : LockConfig := .standard
  environment : Environment := []
  freshId : String := ""

inductive Plan where
  | refuse (context : String) (cause : ArgumentError)
  | migrate
  | operate (op : Op Answer) (interruptible : Bool)

namespace Plan

variable [Regex.Engine]

def programName : String := "lockkeeper-cli"

def withKey (key : RawKey) (f : LockKey → Plan) : Plan :=
  match LockKey.ofRaw key.office key.project key.application with
  | .ok k => f k
  | .error cause => refuse "Invalid lock key" cause

def withFilter (filter : RawFilter) (f : CatalogFilter → Plan) : Plan :=
  match CatalogFilter.ofRaw filter.project filter.application filter.office with
  | .ok x => f x
  | .error cause => refuse "Invalid catalog mask" cause

def answering {α : Type} (op : Op α) (answer : α → Answer) : Plan :=
  operate (op >>= fun a => pure (answer a)) false

def sessionOf (i : Invocation) : SessionInfo where
  sessionUser := i.user
  osUser := i.environment.get? "USER"
  program := some programName
  machine := i.environment.get? "HOSTNAME"

def acquireRequest (i : Invocation) (key : LockKey) (revoke : Bool) (timeout : Option Int) :
    LockRequest :=
  let r : LockRequest := { key := key, session := sessionOf i }
  if revoke then r.revoking (timeout.getD i.config.defaultRevokeTimeoutSecs) else r

def ofRights (format : OutputFormat) : RightsCommand → Plan
  | .allow office grantee officeMask projectMask applicationMask =>
    answering
      (Authority.allow office (officeMask.getD office) projectMask applicationMask grantee)
      (Answer.allowed format)
  | .update office grantee officeMask projectMask applicationMask allowed =>
    answering
      (Authority.update office grantee projectMask applicationMask (officeMask.getD office) allowed)
      fun _ => Answer.updated format grantee allowed
  | .removeAll office grantee officeMask applicationMask =>
    answering (Authority.removeAll office officeMask applicationMask grantee)
      (Answer.removedAll format grantee)
  | .check key grantee =>
    answering (Authority.mayRevoke key.office (some grantee) key.project key.application)
      (Answer.check format key grantee)
  | .list filter => withFilter filter fun f => answering (Authority.list f) (Answer.grants format)

def ofCommand (i : Invocation) : Command → Plan
  | .migrate => migrate
  | .acquire key revoke timeout =>
    withKey key fun k =>
      operate
        (Locking.request i.config (acquireRequest i k revoke timeout) i.user i.freshId >>=
          fun outcome => pure (Answer.acquire i.format k outcome))
        true
  | .release office lockId =>
    answering (Locking.release office lockId) (Answer.release i.format office lockId)
  | .revoke key =>
    withKey key fun k => answering (Locking.revoke k i.user) (Answer.revoke i.format k)
  | .status key => withKey key fun k => answering (Locking.isLocked k) (Answer.status i.format k)
  | .locks filter zone =>
    withFilter filter fun f => answering (Locking.list f zone) (Answer.locks i.format)
  | .lockInfo office lockId =>
    answering (Locking.find office lockId) (Answer.lockInfo i.format lockId)
  | .rights action => ofRights i.format action

end Plan

end LockRegistry
