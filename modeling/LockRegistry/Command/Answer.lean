import LockRegistry.Command
import LockRegistry.Json.Forms

/-! What the commands print, as text or as JSON, and the exit status that goes with it. -/

namespace LockRegistry

structure Answer where
  exitCode : Nat
  output : String
deriving DecidableEq, Repr

namespace Answer

def negative : Nat := 2

def verdict (yes : Bool) : Nat := if yes then 0 else negative

def print (format : OutputFormat) (exitCode : Nat) (json : Json) (text : String) : Answer where
  exitCode := exitCode
  output := (match format with
    | .json => json.pretty
    | .text => text) ++ "\n"

def record (fields : List (String × Json)) : Json := (Json.obj fields).sorted

def migrated (format : OutputFormat) : Answer :=
  print format 0 (record [("migrated", .bool true)]) "Migrations applied"

def acquireText (key : LockKey) : AcquireOutcome → String
  | .acquired lockId => s!"Acquired {key.text} as {lockId}"
  | .lockHeld heldBy acquiredAt =>
    let holder := heldBy.getD "unknown"
    let since := (acquiredAt.map Timestamp.text).getD "unknown"
    s!"{key.text} is held by {holder} since {since}"
  | .revokeDenied => s!"Not allowed to revoke the lock on {key.text}"
  | .revokeTimedOut waitedMs => s!"Holder of {key.text} did not release within {waitedMs} ms"

def acquire (format : OutputFormat) (key : LockKey) (outcome : AcquireOutcome) : Answer :=
  print format (verdict outcome.isAcquired) outcome.toJson (acquireText key outcome)

def release (format : OutputFormat) (office lockId : String) (released : Bool) : Answer :=
  print format (verdict released) (record [("released", .bool released)])
    (if released then s!"Released lock {lockId}" else s!"No lock {lockId} in office {office}")

def revoke (format : OutputFormat) (key : LockKey) (revoked : Bool) : Answer :=
  print format 0 (record [("key", key.toJson), ("revoked", .bool revoked)])
    (if revoked then s!"Revoked lock on {key.text}" else s!"{key.text} was not locked")

def status (format : OutputFormat) (key : LockKey) (locked : Bool) : Answer :=
  print format (verdict locked) (record [("key", key.toJson), ("locked", .bool locked)])
    (key.text ++ ": " ++ if locked then "locked" else "unlocked")

def lockPath (l : Lock) : String := s!"{l.office}/{l.project}/{l.application}"

def listingLine (l : LockListing) : String :=
  let user := l.lock.session.sessionUser.getD "-"
  let revocation := match l.lock.revokeRequestedBy with
    | some by_ => "\trevoke requested by " ++ by_
    | none => ""
  "\t".intercalate [lockPath l.lock, l.lock.lockId, l.acquireTime.text, user] ++ revocation

def catalog (none : String) (lines : List String) : String :=
  if lines.isEmpty then none else "\n".intercalate lines

def locks (format : OutputFormat) (listings : List LockListing) : Answer :=
  print format 0 (.arr (listings.map (·.toJson))) (catalog "No locks" (listings.map listingLine))

def lockInfoText (lockId : String) : Option Lock → String
  | none => s!"Lock {lockId} is not held"
  | some l =>
    let path := lockPath l
    match l.pendingRevocation with
    | none => s!"Lock {l.lockId} holds {path} since {l.acquireTime.text}"
    | some r =>
      s!"Lock {l.lockId} holds {path}; " ++
        s!"revocation requested by {r.requestedBy} at {r.requestedAt.text}"

def lockInfo (format : OutputFormat) (lockId : String) (lock : Option Lock) : Answer :=
  print format (verdict lock.isSome)
    (record [("lock", .ofOption Lock.toJson lock),
      ("pending_revocation",
        .ofOption RevocationRequest.toJson (lock.bind (·.pendingRevocation)))])
    (lockInfoText lockId lock)

def allowed (format : OutputFormat) (g : Grant) : Answer :=
  print format 0 g.toJson
    (s!"{g.user} may revoke {g.officeMask}/{g.projectMask}/{g.applicationMask} " ++
      s!"(grant owned by {g.office})")

def updated (format : OutputFormat) (grantee : String) (allowed : Bool) : Answer :=
  let verb := if allowed then "granted" else "removed"
  print format 0 (record [("allowed", .bool allowed)]) s!"Revoker right {verb} for {grantee}"

def removedAll (format : OutputFormat) (grantee : String) (removed : Nat) : Answer :=
  print format 0 (record [("removed", .int removed)])
    s!"Removed {removed} revoker right(s) for {grantee}"

def check (format : OutputFormat) (key : RawKey) (grantee : String) (allowed : Bool) : Answer :=
  let modal := if allowed then "may" else "may not"
  print format (verdict allowed) (record [("allowed", .bool allowed)])
    s!"{grantee} {modal} revoke {key.office}/{key.project}/{key.application}"

def grantLine (g : Grant) : String :=
  "\t".intercalate [g.office, g.user, g.officeMask, g.projectMask, g.applicationMask]

def grants (format : OutputFormat) (grants : List Grant) : Answer :=
  print format 0 (.arr (grants.map (·.toJson)))
    (catalog "No revoker rights" (grants.map grantLine))

end Answer

end LockRegistry
