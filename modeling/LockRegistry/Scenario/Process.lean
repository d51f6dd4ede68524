import LockRegistry.Scenario.World

namespace LockRegistry

namespace Scenario

inductive Signal where
  | cancel
  | interrupt
deriving DecidableEq, Repr

structure Task (β : Type) where
  op : Op β
  failed : LockError → β
  -- whether the locks that it inserts get the next number
  numbers : Bool := true
  heeds : Option Signal := none

inductive HookAction where
  | delete (key : LockKey)
  | insert (key : LockKey) (session : SessionInfo)
  | cancel
  | fail (cause : DatabaseError)
deriving DecidableEq, Repr

-- Calls of each kind are counted from one.
structure Hook where
  before : Call.Kind
  count : Nat
  actions : List HookAction
deriving DecidableEq, Repr

inductive Status (β : Type) where
  | running (op : Op β)
  | napping (wake : Nat) (next : Bool → Op β)
  | finished (result : β)

structure Process (β : Type) where
  status : Status β
  failed : LockError → β
  numbers : Bool
  heeds : Option Signal
  fired : Bool := false
  hooks : List Hook := []
  calls : List Call.Kind := []

namespace Process

variable [Regex.Engine] {β : Type}

def ofTask (t : Task β) : Process β where
  status := .running t.op
  failed := t.failed
  numbers := t.numbers
  heeds := t.heeds

def result? (p : Process β) : Option β :=
  match p.status with
  | .finished b => some b
  | _ => none

def wake? (p : Process β) : Option Nat :=
  match p.status with
  | .napping wake _ => some wake
  | _ => none

def callCount (p : Process β) (kind : Call.Kind) : Nat := p.calls.count kind

def finish (p : Process β) : Except LockError β → Process β
  | .ok b => { p with status := .finished b }
  | .error e => { p with status := .finished (p.failed e) }

def awaits (p : Process β) (s : Signal) : Bool :=
  p.heeds == some s && !p.fired && p.result?.isNone

def signal (p : Process β) (s : Signal) : Process β := { p with fired := p.fired || p.awaits s }

def canStep (alarm : Nat) (p : Process β) : Bool :=
  match p.status with
  | .running _ => true
  | .napping wake _ => p.fired || wake ≤ alarm
  | .finished _ => false

structure HookEffect where
  world : World
  cancelled : Bool := false
  failure : Option DatabaseError := none

def HookEffect.act (e : HookEffect) : HookAction → HookEffect
  | .delete key =>
    { e with world := { e.world with store := (e.world.store.deleteLock key).2 } }
  | .insert key session =>
    { e with world := (e.world.insertNumbered { lockId := "", key := key, session := session }).2 }
  | .cancel => { e with cancelled := true }
  | .fail cause => { e with failure := some cause }

def HookEffect.actAll (e : HookEffect) : List HookAction → HookEffect
  | [] => e
  | a :: rest => if e.failure.isSome then e else (e.act a).actAll rest

def hookActions (p : Process β) (kind : Call.Kind) : List HookAction :=
  (p.hooks.filter fun h => h.before = kind ∧ h.count = p.callCount kind + 1).flatMap (·.actions)

def makeCall (w : World) (p : Process β) (c : Call) (next : Except DatabaseError c.Reply → Op β) :
    World × Process β :=
  let e := HookEffect.actAll { world := w } (p.hookActions c.kind)
  let fired := p.fired || (e.cancelled && p.heeds == some .cancel)
  let p := { p with fired := fired, calls := c.kind :: p.calls }
  match e.failure with
  | some cause => (e.world, { p with status := .running (next (.error cause)) })
  | none =>
    let (reply, w) := e.world.answer p.numbers c
    (w, { p with status := .running (next (.ok reply)) })

def step (w : World) (p : Process β) : World × Process β :=
  match p.status with
  | .running op =>
    let goOn (op : Op β) : Process β := { p with status := .running op }
    match op.action with
    | .done result => (w, p.finish result)
    | .log e next => (w.say e, goOn next)
    | .call c next => makeCall w p c next
    | .clock next => (w, goOn (next w.clock))
    | .token next => (w, goOn (next p.fired))
    | .nap length next =>
      if p.fired then (w, goOn (next true))
      else (w, { p with status := .napping (w.elapsed + length) next })
  | .napping _ next => (w, { p with status := .running (next p.fired) })
  | .finished _ => (w, p)

def proceed (alarm : Nat) : Nat → World → Process β → World × Process β
  | 0, w, p => (w, p)
  | fuel + 1, w, p =>
    if p.canStep alarm then
      let (w, p) := p.step w
      proceed alarm fuel w p
    else (w, p)

end Process

end Scenario

end LockRegistry
