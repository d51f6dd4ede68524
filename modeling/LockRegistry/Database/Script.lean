import LockRegistry.Database.Server

/-! A server that keeps what it is sent and gives the next of its replies to each statement. -/

namespace LockRegistry.Database

inductive ScriptCell where
  | value (v : Value)
  | param (number : Nat)
deriving DecidableEq, Repr

inductive ScriptReply where
  | rows (columns : Option (List ResultColumn)) (rows : List (List ScriptCell))
  | affected (count : Nat)
  | refused (reason : String)
deriving DecidableEq, Repr

inductive Sent where
  | query (q : Query)
  | migration (step : MigrationStep)
deriving DecidableEq, Repr

structure Refusal where
  reason : String
  code : String := ""
deriving DecidableEq, Repr

-- Reasons that pass: too many connections, and a server that is not ready yet.
def Refusal.isTransient (r : Refusal) : Bool := r.code ∈ ["53300", "57P03"]

structure Script where
  replies : List ScriptReply := []
  history : MigrationHistory := {}
  socket : String := ""
  refusal : Option Refusal := none
  closed : Bool := false
  sent : Array Sent := #[]

namespace ScriptCell

def valueIn (q : Query) (type : SqlType) : ScriptCell → Value
  | value (.int n) => if type = .timestamptz then .time (.ofMicros n) else .int n
  | value v => v
  | param number => q.param number

end ScriptCell

def ScriptReply.answer (q : Query) : ScriptReply → Except DatabaseError ResultSet
  | .rows columns cells =>
    let columns := columns.getD q.statement.resultColumns
    let row (cells : List ScriptCell) := (columns.zip cells).map fun c => c.2.valueIn q c.1.type
    .ok ⟨columns, cells.map row, cells.length⟩
  | .affected count => .ok ⟨[], [], count⟩
  | .refused reason => .error (.refused reason)

namespace Script

def pathNames (path : String) : List (List Char) :=
  (Text.parts '/' path.toList).filter fun name => name ≠ [] ∧ name ≠ ['.']

-- A client tries again until its time is up where nobody listens on the network, and where it is
-- refused for a reason that passes.
def connect (s : Script) (o : ConnectOptions) : Except DatabaseError Unit := do
  let some directory := o.directory? | throw .poolTimedOut
  let path ← o.socketPath directory
  if pathNames path ≠ pathNames s.socket then
    throw (.communication "No such file or directory (os error 2)")
  if o.encryption = .required then throw .noEncryption
  match s.refusal with
  | none => return ()
  | some r => throw (if r.isTransient then .poolTimedOut else .refused r.reason)

-- When the replies are used up, statements have no rows and touch none.
def answer (s : Script) (q : Query) : Except DatabaseError ResultSet × Script :=
  if s.closed then (.error .poolClosed, s)
  else
    let s := { s with sent := s.sent.push (.query q) }
    match s.replies with
    | [] => (.ok {}, s)
    | reply :: rest => (reply.answer q, { s with replies := rest })

def migrate (s : Script) : Except MigrateError Unit × Script :=
  if s.closed then (.error (.database .poolClosed), s)
  else
    let (steps, result) := s.history.migrate
    (result, { s with sent := s.sent ++ (steps.map Sent.migration).toArray })

def server : Server Script where
  connect := connect
  answer s _ q := s.answer q
  migrate := migrate

end Script

end LockRegistry.Database
