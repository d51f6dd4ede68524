import LockRegistry.Key
import LockRegistry.Session
import LockRegistry.Time.Zone

namespace LockRegistry

structure RevocationRequest where
  requestedBy : String
  requestedAt : Timestamp
deriving DecidableEq, Repr

structure Lock where
  lockId : String
  office : String
  project : String
  application : String
  acquireTime : Timestamp
  session : SessionInfo
  revokeRequestedBy : Option String
  revokeRequestedAt : Option Timestamp
deriving DecidableEq, Repr, Inhabited

structure NewLock where
  lockId : String
  key : LockKey
  session : SessionInfo := {}
deriving DecidableEq, Repr, Inhabited

def NewLock.toLock (l : NewLock) (acquireTime : Timestamp) : Lock where
  lockId := l.lockId
  office := l.key.office
  project := l.key.project
  application := l.key.application
  acquireTime := acquireTime
  session := l.session
  revokeRequestedBy := none
  revokeRequestedAt := none

namespace Lock

def isFor (l : Lock) (k : LockKey) : Bool :=
  l.office == k.office && l.project == k.project && l.application == k.application

def isNamed (l : Lock) (office lockId : String) : Bool := l.office == office && l.lockId == lockId

def pendingRevocation (l : Lock) : Option RevocationRequest :=
  match l.revokeRequestedBy, l.revokeRequestedAt with
  | some user, some time => some ⟨user, time⟩
  | _, _ => none

def stamped (l : Lock) (user : String) (time : Timestamp) : Lock :=
  { l with revokeRequestedBy := some user, revokeRequestedAt := some time }

end Lock

theorem NewLock.isFor_toLock (l : NewLock) (t : Timestamp) : (l.toLock t).isFor l.key = true := by
  simp [Lock.isFor, NewLock.toLock]

structure LockListing where
  lock : Lock
  acquireTime : ZonedTime
deriving DecidableEq, Repr

def LockListing.ofLock (zone : Zone) (l : Lock) : LockListing := ⟨l, zone.zoned l.acquireTime⟩

def defaultRevokeTimeoutSecs : Int := 10

structure LockRequest where
  key : LockKey
  revokeExisting : Bool := false
  revokeTimeoutSecs : Int := defaultRevokeTimeoutSecs
  session : SessionInfo := {}
deriving DecidableEq, Repr, Inhabited

def LockRequest.revoking (r : LockRequest) (timeoutSecs : Int) : LockRequest :=
  { r with revokeExisting := true, revokeTimeoutSecs := timeoutSecs }

inductive AcquireOutcome where
  | acquired (lockId : String)
  | lockHeld (heldBy : Option String) (acquiredAt : Option Timestamp)
  | revokeDenied
  | revokeTimedOut (waitedMs : Nat)
deriving DecidableEq, Repr

namespace AcquireOutcome

def lockId? : AcquireOutcome → Option String
  | acquired lockId => some lockId
  | _ => none

def isAcquired (o : AcquireOutcome) : Bool := o.lockId?.isSome

end AcquireOutcome

end LockRegistry
