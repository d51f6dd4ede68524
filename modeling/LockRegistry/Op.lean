import LockRegistry.Op.Wait

/-! Operations on a store: trees of calls, log events and readings of the clock, with waits at their
nodes. -/

namespace LockRegistry

inductive Op (α : Type) : Type where
  | done (result : Except LockError α)
  | log (event : LogEvent) (next : Op α)
  | call (c : Call) (next : Except DatabaseError c.Reply → Op α)
  | clock (next : Nat → Op α)
  | wait (w : Wait) (next : Except LockError Wait.Ending → Op α)

namespace Op

variable {α β : Type}

instance : Inhabited (Op α) := ⟨.done (.error .cancelled)⟩

def bind : Op α → (α → Op β) → Op β
  | done (.ok a), k => k a
  | done (.error e), _ => done (.error e)
  | log event next, k => log event (next.bind k)
  | call c next, k => call c fun r => (next r).bind k
  | clock next, k => clock fun t => (next t).bind k
  | wait w next, k => wait w fun r => (next r).bind k

instance : Monad Op where
  pure a := done (.ok a)
  bind := bind

def fail (e : LockError) : Op α := done (.error e)

def check : Except ArgumentError α → Op α
  | .ok a => done (.ok a)
  | .error e => done (.error (.argument e))

def ask (c : Call) : Op c.Reply := call c fun r => done (r.mapError .database)

def emit (event : LogEvent) : Op Unit := log event (done (.ok ()))

def now : Op Nat := clock fun t => done (.ok t)

def await (key : LockKey) (timeout poll : Nat) : Op Wait.Ending :=
  wait { key := key, timeout := timeout, poll := poll } done

def action : Op α → Action (Op α) α
  | done result => .done result
  | log event next => .log event next
  | call c next => .call c next
  | clock next => .clock next
  | wait w next => w.action.andThen (wait · next) fun r => (next r).action

def result? (x : Op α) : Option (Except LockError α) :=
  match x.action with
  | .done r => some r
  | _ => none

theorem pure_bind (a : α) (k : α → Op β) : (pure a : Op α) >>= k = k a := rfl

theorem fail_bind (e : LockError) (k : α → Op β) : (fail e : Op α) >>= k = fail e := rfl

theorem bind_pure (x : Op α) : x >>= pure = x := by
  induction x with
  | done result => cases result <;> rfl
  | log event next ih => exact congrArg (log event) ih
  | call c next ih => exact congrArg (call c) (funext ih)
  | clock next ih => exact congrArg clock (funext ih)
  | wait w next ih => exact congrArg (wait w) (funext ih)

theorem bind_assoc {γ : Type} (x : Op α) (f : α → Op β) (g : β → Op γ) :
    x >>= f >>= g = x >>= fun a => f a >>= g := by
  induction x with
  | done result => cases result <;> rfl
  | log event next ih => exact congrArg (log event) ih
  | call c next ih => exact congrArg (call c) (funext ih)
  | clock next ih => exact congrArg clock (funext ih)
  | wait w next ih => exact congrArg (wait w) (funext ih)

end Op

end LockRegistry
