import LockRegistry.Database.ConnectOptions
import LockRegistry.Database.Migration
import LockRegistry.Database.Query
import LockRegistry.Database.ResultSet
import LockRegistry.Op

namespace LockRegistry.Database

structure Server (σ : Type) where
  connect : σ → ConnectOptions → Except DatabaseError Unit
  answer : σ → Timestamp → Query → Except DatabaseError ResultSet × σ
  migrate : σ → Except MigrateError Unit × σ

structure Client (σ : Type) where
  server : σ
  start : Timestamp
  elapsed : Nat := 0
  log : Array LogEvent := #[]

namespace Client

variable {σ α : Type}

def now (c : Client σ) : Timestamp := c.start.later c.elapsed

def clock (c : Client σ) : Nat := Wait.clockOrigin + c.elapsed

def say (c : Client σ) (e : LogEvent) : Client σ := { c with log := c.log.push e }

def send (s : Server σ) (c : Client σ) (q : Query) : Except DatabaseError ResultSet × Client σ :=
  let (result, server) := s.answer c.server c.now q
  (result, { c with server := server })

def connect (s : Server σ) (c : Client σ) (env : Environment) (url : String)
    (maxConnections : Int) : Except DatabaseError Unit × Client σ :=
  let (events, options) := ConnectOptions.ofUrl env url
  let result := options >>= fun o =>
    if maxConnections = 0 then .error .poolTimedOut else s.connect c.server o
  (result, events.foldl say c)

def ask (s : Server σ) (c : Client σ) (call : Call) : Except DatabaseError call.Reply × Client σ :=
  let (result, c) := c.send s (.ofCall call)
  (result >>= fun r => r.reply call, c)

def health (s : Server σ) (c : Client σ) : Except DatabaseError Unit × Client σ :=
  let (result, c) := c.send s .health
  (result.map fun _ => (), c)

def migrate (s : Server σ) (c : Client σ) : Except MigrateError Unit × Client σ :=
  let (result, server) := s.migrate c.server
  (result, { c with server := server })

def stepLimit : Nat := 1000000000

-- an operation that takes more steps is cancelled; time passes only in naps, and no token fires
def run (s : Server σ) : Nat → Op α → Client σ → Except LockError α × Client σ
  | 0, op, c => (op.result?.getD (.error .cancelled), c)
  | fuel + 1, op, c =>
    match op.action with
    | .done result => (result, c)
    | .log e next => run s fuel next (c.say e)
    | .call call next =>
      let (reply, c) := c.ask s call
      run s fuel (next reply) c
    | .clock next => run s fuel (next c.clock) c
    | .token next => run s fuel (next false) c
    | .nap length next => run s fuel (next false) { c with elapsed := c.elapsed + length }

def perform (s : Server σ) (op : Op α) (c : Client σ) : Except LockError α × Client σ :=
  run s stepLimit op c

end Client

end LockRegistry.Database
