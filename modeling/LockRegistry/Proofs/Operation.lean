import LockRegistry.Locking
import LockRegistry.Proofs.Sessions

namespace LockRegistry

inductive Operation where
  | request (config : LockConfig) (r : LockRequest) (caller : Option String) (lockId : String)
  | release (office lockId : String)
  | revoke (key : LockKey) (caller : Option String)
  | isLocked (key : LockKey)
  | listLocks (filter : CatalogFilter) (zone : Zone)
  | find (office lockId : String)
  | pendingRevocation (office lockId : String)
  | allow (office officeMask projectMask applicationMask user : String)
  | update (office user projectMask applicationMask officeMask : String) (allowed : Bool)
  | removeAll (office : String) (officeMask applicationMask : Option String) (user : String)
  | mayRevoke (office : String) (user : Option String) (project application : String)
  | listGrants (filter : CatalogFilter)

inductive Value where
  | outcome (o : AcquireOutcome)
  | flag (b : Bool)
  | count (n : Nat)
  | lock (l : Option Lock)
  | locks (l : List LockListing)
  | revocation (r : Option RevocationRequest)
  | grant (g : Grant)
  | grants (g : List Grant)
  | nothing

variable [Regex.Engine]

def Operation.op : Operation → Op Value
  | request config r caller lockId => .outcome <$> Locking.request config r caller lockId
  | release office lockId => .flag <$> Locking.release office lockId
  | revoke key caller => .flag <$> Locking.revoke key caller
  | isLocked key => .flag <$> Locking.isLocked key
  | listLocks filter zone => .locks <$> Locking.list filter zone
  | find office lockId => .lock <$> Locking.find office lockId
  | pendingRevocation office lockId => .revocation <$> Locking.pendingRevocation office lockId
  | allow office officeMask projectMask applicationMask user =>
    .grant <$> Authority.allow office officeMask projectMask applicationMask user
  | update office user projectMask applicationMask officeMask allowed =>
    (fun _ => .nothing) <$>
      Authority.update office user projectMask applicationMask officeMask allowed
  | removeAll office officeMask applicationMask user =>
    .count <$> Authority.removeAll office officeMask applicationMask user
  | mayRevoke office user project application =>
    .flag <$> Authority.mayRevoke office user project application
  | listGrants filter => .grants <$> Authority.list filter

def Sessions.start {ι : Type} (calls : ι → Operation) : Sessions ι Value where
  store := .empty
  op i := (calls i).op

def Store.Reachable (s : Store) : Prop :=
  ∃ (calls : Nat → Operation) (h : List (Turn Nat)), ((Sessions.start calls).run h).store = s

namespace Op

variable {α β : Type} {x : Op α} {l : List Exchange}

omit [Regex.Engine] in
lemma Makes.map {f : α → β} {r : Except LockError β} (h : (f <$> x).Makes l r) :
    ∃ r', x.Makes l r' ∧ r = r'.map f := by
  rcases Makes.bind h with ⟨a, l₁, l₂, rfl, hx, hk⟩ | ⟨e, rfl, hx⟩
  · obtain ⟨rfl, rfl⟩ := makes_done.1 hk
    exact ⟨.ok a, by rwa [List.append_nil], rfl⟩
  · exact ⟨.error e, hx, rfl⟩

end Op

end LockRegistry
