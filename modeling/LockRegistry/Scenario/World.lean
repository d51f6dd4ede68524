import LockRegistry.Op
import LockRegistry.Store

namespace LockRegistry

namespace Scenario

structure World where
  store : Store := .empty
  start : Timestamp
  elapsed : Nat := 0
  numbered : Nat := 0
  log : Array LogEvent := #[]

namespace World

variable [Regex.Engine]

def clock (w : World) : Nat := Wait.clockOrigin + w.elapsed

def now (w : World) : Timestamp := w.start.later w.elapsed

def say (w : World) (e : LogEvent) : World := { w with log := w.log.push e }

def nextLockId (w : World) : String := lockIdOfNat (w.numbered + 1)

-- The number is used up only if the key was free.
def insertNumbered (w : World) (l : NewLock) : Option Lock × World :=
  let (inserted, store) := w.store.insertLock w.now { l with lockId := w.nextLockId }
  (inserted, { w with store := store, numbered := w.numbered + if inserted.isSome then 1 else 0 })

def answer (w : World) (numbers : Bool) : (c : Call) → c.Reply × World
  | .insertLock l =>
    if numbers then w.insertNumbered l
    else
      let (reply, store) := w.store.insertLock w.now l
      (reply, { w with store := store })
  | c =>
    let (reply, store) := w.store.apply w.now c
    (reply, { w with store := store })

end World

end Scenario

end LockRegistry
