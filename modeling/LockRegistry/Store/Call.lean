import LockRegistry.Grant
import LockRegistry.Lock

namespace LockRegistry

inductive Call where
  | insertLock (lock : NewLock)
  | deleteLockNamed (office lockId : String)
  | markRevocation (key : LockKey) (lockId user : String)
  | deleteLock (key : LockKey)
  | findLock (key : LockKey)
  | findLockNamed (office lockId : String)
  | lockExists (key : LockKey)
  | listLocks (filter : CatalogFilter)
  | upsertGrant (grant : NewGrant)
  | deleteGrant (key : GrantKey)
  | deleteGrants (office : String) (officeMask applicationMask : Mask) (user : String)
  | grantsOf (user : String)
  | listGrants (filter : CatalogFilter)
deriving DecidableEq, Repr

namespace Call

abbrev Reply : Call → Type
  | insertLock _ => Option Lock
  | deleteLockNamed _ _ => Bool
  | markRevocation _ _ _ => Bool
  | deleteLock _ => Option Lock
  | findLock _ => Option Lock
  | findLockNamed _ _ => Option Lock
  | lockExists _ => Bool
  | listLocks _ => List Lock
  | upsertGrant _ => Grant
  | deleteGrant _ => Bool
  | deleteGrants _ _ _ _ => Nat
  | grantsOf _ => List Grant
  | listGrants _ => List Grant

inductive Kind where
  | insertLock
  | deleteLockNamed
  | markRevocation
  | deleteLock
  | findLock
  | findLockNamed
  | lockExists
  | listLocks
  | upsertGrant
  | deleteGrant
  | deleteGrants
  | grantsOf
  | listGrants
deriving DecidableEq, Repr

def kind : Call → Kind
  | insertLock _ => .insertLock
  | deleteLockNamed _ _ => .deleteLockNamed
  | markRevocation _ _ _ => .markRevocation
  | deleteLock _ => .deleteLock
  | findLock _ => .findLock
  | findLockNamed _ _ => .findLockNamed
  | lockExists _ => .lockExists
  | listLocks _ => .listLocks
  | upsertGrant _ => .upsertGrant
  | deleteGrant _ => .deleteGrant
  | deleteGrants _ _ _ _ => .deleteGrants
  | grantsOf _ => .grantsOf
  | listGrants _ => .listGrants

end Call

end LockRegistry
