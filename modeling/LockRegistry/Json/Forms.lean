import LockRegistry.Grant
import LockRegistry.Json
import LockRegistry.Lock

namespace LockRegistry

def Timestamp.toJson (t : Timestamp) : Json := .str t.zuluText

def LockKey.toJson (k : LockKey) : Json :=
  .obj [("office_id", .str k.office), ("project_id", .str k.project),
    ("application_id", .str k.application)]

def Mask.toJson (m : Mask) : Json := .str m.pattern

def CatalogFilter.toJson (f : CatalogFilter) : Json :=
  .obj [("office", f.office.toJson), ("project", f.project.toJson),
    ("application", f.application.toJson)]

def SessionInfo.jsonFields (s : SessionInfo) : List (String × Json) :=
  [("session_user", .optStr s.sessionUser), ("os_user", .optStr s.osUser),
    ("session_program", .optStr s.program), ("session_machine", .optStr s.machine)]

def SessionInfo.toJson (s : SessionInfo) : Json := .obj s.jsonFields

def Lock.commonFields (l : Lock) (acquireTime : Json) : List (String × Json) :=
  [("lock_id", .str l.lockId), ("office_id", .str l.office), ("project_id", .str l.project),
    ("application_id", .str l.application), ("acquire_time", acquireTime)] ++
    l.session.jsonFields ++ [("revoke_requested_by", .optStr l.revokeRequestedBy)]

def Lock.toJson (l : Lock) : Json :=
  .obj (l.commonFields l.acquireTime.toJson ++
    [("revoke_requested_at", .ofOption Timestamp.toJson l.revokeRequestedAt)])

def LockListing.record (l : LockListing) (acquireTime : String) : Json :=
  .obj (l.lock.commonFields (.str acquireTime))

-- A listing whose time is out of range where it is shown has no record; this is what would stand in
-- it.
def LockListing.toJson (l : LockListing) : Json := l.record l.acquireTime.zuluForm

def LockListing.toJson? (l : LockListing) : Except Panic Json := l.acquireTime.zuluText.map l.record

def RevocationRequest.toJson (r : RevocationRequest) : Json :=
  .obj [("requested_by", .str r.requestedBy), ("requested_at", r.requestedAt.toJson)]

def Grant.toJson (g : Grant) : Json :=
  .obj [("id", .int g.id), ("office_id", .str g.office), ("office_mask", .str g.officeMask),
    ("user_id", .str g.user), ("project_mask", .str g.projectMask),
    ("application_mask", .str g.applicationMask), ("created_at", g.createdAt.toJson),
    ("updated_at", g.updatedAt.toJson)]

def AcquireOutcome.toJson : AcquireOutcome → Json
  | acquired lockId => .obj [("outcome", .str "acquired"), ("lock_id", .str lockId)]
  | lockHeld heldBy acquiredAt =>
    .obj [("outcome", .str "lock_held"), ("held_by", .optStr heldBy),
      ("acquired_at", .ofOption Timestamp.toJson acquiredAt)]
  | revokeDenied => .obj [("outcome", .str "revoke_denied")]
  | revokeTimedOut waitedMs =>
    .obj [("outcome", .str "revoke_timed_out"), ("waited_ms", .int waitedMs)]

end LockRegistry
