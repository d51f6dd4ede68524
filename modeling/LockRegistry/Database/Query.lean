import LockRegistry.Database.Statement
import LockRegistry.Store.Call

namespace LockRegistry.Database

structure Query where
  statement : Statement
  params : List (Option String) := []
deriving DecidableEq, Repr

namespace Query

def param (q : Query) (number : Nat) : Value := Value.ofText ((q.params[number - 1]?).join)

def ofTexts (statement : Statement) (params : List String) : Query := ⟨statement, params.map some⟩

def health : Query := ⟨.selectOne, []⟩

def lockColumns : List Column :=
  [.lockId, .office, .project, .application, .sessionUser, .osUser, .program, .machine]

def grantColumns : List Column := [.office, .officeMask, .user, .projectMask, .applicationMask]

def equal (columns : List Column) : List Condition :=
  columns.zipIdx.map fun c => .equals c.1 (c.2 + 1)

def alike (columns : List Column) : List Condition :=
  columns.zipIdx.map fun c => .like c.1 (c.2 + 1)

def onKey : List Condition := equal Relation.locks.key

def named : List Condition := equal [.office, .lockId]

def keyParams (key : LockKey) : List String := [key.office, key.project, key.application]

def filterParams (f : CatalogFilter) : List String :=
  [f.office.like, f.project.like, f.application.like]

def insertLock (l : NewLock) : Query where
  statement := .insert .locks lockColumns .nothing
  params := ((l.lockId :: keyParams l.key).map some) ++
    [l.session.sessionUser, l.session.osUser, l.session.program, l.session.machine]

def upsertGrant (g : NewGrant) : Query :=
  .ofTexts
    (.insert .grants grantColumns (.update [⟨.officeMask, .proposed⟩, ⟨.updatedAt, .now⟩]))
    [g.key.office, g.officeMask, g.key.user, g.key.projectMask, g.key.applicationMask]

def markRevocation (key : LockKey) (lockId user : String) : Query :=
  .ofTexts
    (.update .locks [⟨.revokeRequestedBy, .param 5⟩, ⟨.revokeRequestedAt, .now⟩]
      (equal (Relation.locks.key ++ [.lockId])))
    (keyParams key ++ [lockId, user])

def deleteGrants (office : String) (officeMask applicationMask : Mask) (user : String) : Query :=
  .ofTexts
    (.delete .grants
      [.equals .office 1, .equals .user 2, .like .officeMask 3, .like .applicationMask 4] false)
    [office, user, officeMask.like, applicationMask.like]

def ofCall : Call → Query
  | .insertLock l => insertLock l
  | .deleteLockNamed office lockId => .ofTexts (.delete .locks named false) [office, lockId]
  | .markRevocation key lockId user => markRevocation key lockId user
  | .deleteLock key => .ofTexts (.delete .locks onKey true) (keyParams key)
  | .findLock key => .ofTexts (.select .locks onKey []) (keyParams key)
  | .findLockNamed office lockId => .ofTexts (.select .locks named []) [office, lockId]
  | .lockExists key => .ofTexts (.selectExists .locks onKey) (keyParams key)
  | .listLocks f =>
    .ofTexts (.select .locks (alike Relation.locks.key) Relation.locks.key) (filterParams f)
  | .upsertGrant g => upsertGrant g
  | .deleteGrant key => .ofTexts (.delete .grants (equal Relation.grants.key) false) key.parts
  | .deleteGrants office officeMask applicationMask user =>
    deleteGrants office officeMask applicationMask user
  | .grantsOf user =>
    .ofTexts (.select .grants (equal [.user]) [.office, .projectMask, .applicationMask]) [user]
  | .listGrants f =>
    .ofTexts (.select .grants (alike [.office, .projectMask, .applicationMask]) Relation.grants.key)
      (filterParams f)

end Query

end LockRegistry.Database
