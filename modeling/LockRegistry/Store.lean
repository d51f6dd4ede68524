import LockRegistry.Store.Call
import LockRegistry.Store.Table

/-! The store in memory: a table of locks and a table of grants. -/

namespace LockRegistry

structure Store where
  locks : Table LockKey Lock := .empty
  grants : Table GrantKey Grant := .empty
  lastGrantId : Int := 0
deriving Inhabited

namespace Store

variable [Regex.Engine]

def empty : Store := {}

-- The first, in the order of keys.
def lockNamed? (s : Store) (office lockId : String) : Option (LockKey × Lock) :=
  s.locks.rows.find? fun row => row.2.isNamed office lockId

def insertLock (s : Store) (now : Timestamp) (l : NewLock) : Option Lock × Store :=
  if s.locks.contains l.key then (none, s)
  else (some (l.toLock now), { s with locks := s.locks.insert l.key (l.toLock now) })

def deleteLockNamed (s : Store) (office lockId : String) : Bool × Store :=
  match s.lockNamed? office lockId with
  | some (key, _) => (true, { s with locks := s.locks.erase key })
  | none => (false, s)

def markRevocation (s : Store) (now : Timestamp) (key : LockKey) (lockId user : String) :
    Bool × Store :=
  match s.locks.find? key with
  | some l =>
    if l.lockId = lockId then (true, { s with locks := s.locks.modify key (·.stamped user now) })
    else (false, s)
  | none => (false, s)

def deleteLock (s : Store) (key : LockKey) : Option Lock × Store :=
  (s.locks.find? key, { s with locks := s.locks.erase key })

def listLocks (s : Store) (f : CatalogFilter) : List Lock :=
  s.locks.values.filter fun l => f.accepts l.office l.project l.application

def upsertGrant (s : Store) (now : Timestamp) (g : NewGrant) : Grant × Store :=
  match s.grants.find? g.key with
  | some old =>
    let grant := { old with officeMask := g.officeMask, updatedAt := now }
    (grant, { s with grants := s.grants.insert g.key grant })
  | none =>
    let grant : Grant := {
      id := s.lastGrantId + 1
      office := g.key.office
      officeMask := g.officeMask
      user := g.key.user
      projectMask := g.key.projectMask
      applicationMask := g.key.applicationMask
      createdAt := now
      updatedAt := now }
    (grant, { s with grants := s.grants.insert g.key grant, lastGrantId := s.lastGrantId + 1 })

def deleteGrant (s : Store) (key : GrantKey) : Bool × Store :=
  (s.grants.contains key, { s with grants := s.grants.erase key })

def isCleared (office : String) (officeMask applicationMask : Mask) (user : String) (g : Grant) :
    Bool :=
  g.office == office && g.user == user && officeMask.accepts g.officeMask &&
    applicationMask.accepts g.applicationMask

def deleteGrants (s : Store) (office : String) (officeMask applicationMask : Mask) (user : String) :
    Nat × Store :=
  let kept := s.grants.filter fun _ g => !isCleared office officeMask applicationMask user g
  (s.grants.size - kept.size, { s with grants := kept })

def grantsOf (s : Store) (user : String) : List Grant :=
  s.grants.values.filter fun g => g.user == user

def listGrants (s : Store) (f : CatalogFilter) : List Grant :=
  s.grants.values.filter fun g => f.accepts g.office g.projectMask g.applicationMask

def apply (s : Store) (now : Timestamp) : (c : Call) → c.Reply × Store
  | .insertLock l => s.insertLock now l
  | .deleteLockNamed office lockId => s.deleteLockNamed office lockId
  | .markRevocation key lockId user => s.markRevocation now key lockId user
  | .deleteLock key => s.deleteLock key
  | .findLock key => (s.locks.find? key, s)
  | .findLockNamed office lockId => ((s.lockNamed? office lockId).map (·.2), s)
  | .lockExists key => (s.locks.contains key, s)
  | .listLocks f => (s.listLocks f, s)
  | .upsertGrant g => s.upsertGrant now g
  | .deleteGrant key => s.deleteGrant key
  | .deleteGrants office officeMask applicationMask user =>
    s.deleteGrants office officeMask applicationMask user
  | .grantsOf user => (s.grantsOf user, s)
  | .listGrants f => (s.listGrants f, s)

end Store

end LockRegistry
