import LockRegistry.Regex.Runner
import LockRegistry.Scenario.Process

/-! A process and what happens beside it, in turns. When nothing can go on, the clock moves to
whatever is due first. -/

namespace LockRegistry

namespace Scenario

inductive Work (β : Type) where
  | run (task : Task β)
  | view (f : World → β)
  | advance (length : Nat) (f : World → β)
  | send (signal : Signal) (result : β)
  | settled (result : β)

inductive Happening (β : Type) where
  | planned (due : Nat) (work : Work β)
  | going (process : Process β)
  | settled (result : β)

def stepLimit : Nat := 1000000000

structure Stage (β : Type) where
  world : World
  main : Process β
  -- the alarms up to this time have rung
  alarm : Nat
  interrupted : Bool := false

namespace Happening

variable [Regex.Engine] {β : Type}

def result? : Happening β → Option β
  | planned _ _ => none
  | going p => p.result?
  | settled b => some b

def due? : Happening β → Option Nat
  | planned due _ => some due
  | going p => p.wake?
  | settled _ => none

def canStep (alarm : Nat) : Happening β → Bool
  | planned due _ => due ≤ alarm
  | going p => p.canStep alarm
  | settled _ => false

def awaits (s : Signal) : Happening β → Bool
  | going p => p.awaits s
  | _ => false

def signal (s : Signal) : Happening β → Happening β
  | going p => going (p.signal s)
  | h => h

def goOn (s : Stage β) (p : Process β) : Stage β × Happening β :=
  let (world, p) := p.proceed s.alarm stepLimit s.world
  ({ s with world := world }, going p)

def begin (s : Stage β) : Work β → Stage β × Happening β
  | .run task => goOn s (.ofTask task)
  | .view f => (s, settled (f s.world))
  | .advance length f =>
    let world := { s.world with elapsed := s.world.elapsed + length }
    ({ s with world := world }, planned world.elapsed (.view f))
  | .send .cancel result => ({ s with main := s.main.signal .cancel }, settled result)
  | .send .interrupt result => ({ s with interrupted := true }, settled result)
  | .settled result => (s, settled result)

def proceed (s : Stage β) (h : Happening β) : Stage β × Happening β :=
  match h with
  | planned due work => if due ≤ s.alarm then begin s work else (s, h)
  | going p => goOn s p
  | settled _ => (s, h)

def proceedAll (s : Stage β) : List (Happening β) → Stage β × List (Happening β)
  | [] => (s, [])
  | h :: rest =>
    let (s, h) := proceed s h
    let (s, rest) := proceedAll s rest
    (s, h :: rest)

end Happening

structure Scene (β : Type) where
  stage : Stage β
  others : List (Happening β) := []

namespace Scene

variable [Regex.Engine] {β : Type}

def world (s : Scene β) : World := s.stage.world

def main (s : Scene β) : Process β := s.stage.main

def turn (s : Scene β) : Scene β :=
  let (world, main) := s.main.proceed s.stage.alarm stepLimit s.world
  let stage := { s.stage with world := world, main := main }
  if main.result?.isSome then { s with stage := stage }
  else
    let (stage, others) := Happening.proceedAll stage s.others
    ⟨stage, others⟩

def interruptEvent : LogEvent where
  level := .info
  source := .commands
  message := "Interrupt received, cancelling"

-- Everybody who listens to an interrupt says so, before anybody goes on.
def deliver (s : Scene β) : Scene β :=
  if s.stage.interrupted then
    let count := (s.main.awaits .interrupt).toNat + s.others.countP (·.awaits .interrupt)
    { stage := { s.stage with
        world := (List.replicate count interruptEvent).foldl World.say s.world
        main := s.main.signal .interrupt
        interrupted := false }
      others := s.others.map (·.signal .interrupt) }
  else s

def ring (s : Scene β) (time : Nat) : Scene β :=
  let time := max s.world.elapsed time
  { s with stage := { s.stage with world := { s.world with elapsed := time }, alarm := time } }

def canStep (s : Scene β) : Bool :=
  s.main.canStep s.stage.alarm || s.others.any (·.canStep s.stage.alarm)

def earliest (times : List Nat) : Option Nat :=
  times.foldl (fun best t => some (best.elim t (min t))) none

def next? (s : Scene β) : Option (Scene β) :=
  let s := s.deliver.ring 0
  if s.canStep then some s
  else (earliest (s.main.wake?.toList ++ s.others.filterMap (·.due?))).map s.ring

def run : Nat → Scene β → Scene β
  | 0, s => s
  | fuel + 1, s =>
    let s := s.turn
    if s.main.result?.isSome then s
    else match s.next? with
      | some s => run fuel s
      | none => s

end Scene

structure Report (β : Type) where
  result : Option β
  elapsed : Nat := 0
  polls : Nat := 0
  others : List (Option β) := []
  log : List LogEvent := []

structure Disturbance (β : Type) where
  cancelled : Bool := false
  hooks : List Hook := []
  events : List (Nat × Work β) := []

def World.perform [Regex.Engine] {β : Type} (w : World) (work : Work β) (d : Disturbance β) :
    World × Report β :=
  match work with
  | .run task =>
    let main := { Process.ofTask task with
      fired := d.cancelled && task.heeds == some .cancel
      hooks := d.hooks }
    let others := d.events.map fun e => Happening.planned (w.elapsed + e.1) e.2
    let scene := Scene.run stepLimit ⟨{ world := w, main := main, alarm := w.elapsed }, others⟩
    (scene.world,
      { result := scene.main.result?
        elapsed := scene.world.elapsed - w.elapsed
        polls := scene.main.callCount .lockExists
        others := scene.others.map (·.result?)
        log := scene.world.log.toList })
  | .view f => (w, instantly (f w))
  | .advance length f =>
    let w := { w with elapsed := w.elapsed + length }
    (w, instantly (f w))
  | .send _ result => (w, instantly result)
  | .settled result => (w, instantly result)
where
  instantly (result : β) : Report β :=
    { result := some result, others := d.events.map fun _ => none }

-- What plays scenarios has the engine that runs.
instance : Regex.Engine := Regex.runner

end Scenario

end LockRegistry
