import LockRegistry.Op.Action

/-! Waiting for a key to be free, as a machine that takes one step at a time. -/

namespace LockRegistry

namespace Wait

inductive Ending where
  | released
  | timedOut
deriving DecidableEq, Repr

inductive Phase where
  | start
  | ready (deadline : Option Nat) (polls : UInt32)
  | look (deadline : Option Nat) (polls : UInt32)
  | held (deadline : Nat) (polls : UInt32)
  | nap (deadline : Option Nat) (polls : UInt32) (length : Nat)
  | over (result : Except LockError Ending)

end Wait

structure Wait where
  key : LockKey
  timeout : Nat
  poll : Nat
  phase : Wait.Phase := .start
  pending : List LogEvent := []

namespace Wait

-- The clock began to run this long before anything is done.
def clockOrigin : Nat := 86400 * 1000000000

-- The first time that the clock cannot express: it counts seconds in 63 bits.
def clockLimit : Nat := 0x8000000000000000 * 1000000000

def deadline? (now timeout : Nat) : Option Nat :=
  if now + timeout < clockLimit then some (now + timeout) else none

def millis (length : Nat) : Nat := length / 1000000 % 0x10000000000000000

def seconds (length : Nat) : Nat := length / 1000000000

def event (w : Wait) (message : String) (fields : List (String × LogValue)) : LogEvent where
  level := .debug
  source := .wait
  message := message
  fields := ("key", .shown w.key.text) :: fields

def pollsField (polls : UInt32) : String × LogValue := ("polls", .int polls.toNat)

def goTo (w : Wait) (phase : Phase) : Wait := { w with phase := phase, pending := [] }

def goSaying (w : Wait) (phase : Phase) (message : String) (fields : List (String × LogValue)) :
    Wait :=
  { w with phase := phase, pending := [w.event message fields] }

def goNapping (w : Wait) (deadline : Option Nat) (polls : UInt32) (length : Nat) : Wait :=
  w.goSaying (.nap deadline polls length) "Waiting for lock to clear"
    [pollsField polls, ("nap_ms", .int (millis length))]

def begun (w : Wait) (now : Nat) : Wait :=
  match deadline? now w.timeout with
  | some d => w.goTo (.ready (some d) 0)
  | none =>
    w.goSaying (.ready none 0) "Timeout out of range, waiting without deadline"
      [("timeout_secs", .int (seconds w.timeout))]

def looked (w : Wait) (deadline : Option Nat) (polls : UInt32) : Except DatabaseError Bool → Wait
  | .ok true =>
    match deadline with
    | some d => w.goTo (.held d polls)
    | none => w.goNapping none polls w.poll
  | .ok false => w.goSaying (.over (.ok .released)) "Lock cleared" [pollsField polls]
  | .error e => w.goTo (.over (.error (.database e)))

def compared (w : Wait) (deadline : Nat) (polls : UInt32) (now : Nat) : Wait :=
  if deadline ≤ now then
    w.goSaying (.over (.ok .timedOut)) "Lock still held at deadline" [pollsField polls]
  else w.goNapping (some deadline) polls (min w.poll (deadline - now))

def woken (w : Wait) (deadline : Option Nat) (polls : UInt32) (fired : Bool) : Wait :=
  if fired then w.goSaying (.over (.error .cancelled)) "Wait cancelled" [pollsField polls]
  else w.goTo (.ready deadline polls)

def action (w : Wait) : Action Wait Ending :=
  match w.pending with
  | e :: rest => .log e { w with pending := rest }
  | [] =>
    match w.phase with
    | .start => .clock w.begun
    | .ready d polls => .token fun fired =>
      if fired then w.goTo (.over (.error .cancelled)) else w.goTo (.look d (polls + 1))
    | .look d polls => .call (.lockExists w.key) (w.looked d polls)
    | .held d polls => .clock (w.compared d polls)
    | .nap d polls length => .nap length (w.woken d polls)
    | .over result => .done result

end Wait

end LockRegistry
