import LockRegistry.Log
import LockRegistry.Store.Call

namespace LockRegistry

inductive Action (σ α : Type) where
  | done (result : Except LockError α)
  | log (event : LogEvent) (next : σ)
  | call (c : Call) (next : Except DatabaseError c.Reply → σ)
  | clock (next : Nat → σ)
  | token (next : Bool → σ)
  | nap (length : Nat) (next : Bool → σ)

namespace Action

variable {σ τ α β : Type}

-- a process inside a larger one, which goes on with `k` where it ends
def andThen (f : σ → τ) (k : Except LockError α → Action τ β) : Action σ α → Action τ β
  | done result => k result
  | log event next => log event (f next)
  | call c next => call c (f ∘ next)
  | clock next => clock (f ∘ next)
  | token next => token (f ∘ next)
  | nap length next => nap length (f ∘ next)

end Action

end LockRegistry
