import LockRegistry.Text.Utf8
import LockRegistry.Time.Timestamp

namespace LockRegistry.Database

inductive Column where
  | lockId
  | office
  | project
  | application
  | acquireTime
  | sessionUser
  | osUser
  | program
  | machine
  | revokeRequestedBy
  | revokeRequestedAt
  | id
  | officeMask
  | user
  | projectMask
  | applicationMask
  | createdAt
  | updatedAt
deriving DecidableEq, Repr

def Column.name : Column → String
  | lockId => "lock_id"
  | office => "office_id"
  | project => "project_id"
  | application => "application_id"
  | acquireTime => "acquire_time"
  | sessionUser => "session_user_name"
  | osUser => "os_user"
  | program => "session_program"
  | machine => "session_machine"
  | revokeRequestedBy => "revoke_requested_by"
  | revokeRequestedAt => "revoke_requested_at"
  | id => "id"
  | officeMask => "office_mask"
  | user => "user_id"
  | projectMask => "project_mask"
  | applicationMask => "application_mask"
  | createdAt => "created_at"
  | updatedAt => "updated_at"

structure SqlType where
  name : String
deriving DecidableEq, Repr, Inhabited

namespace SqlType

def text : SqlType := ⟨"text"⟩

def bool : SqlType := ⟨"bool"⟩

def int4 : SqlType := ⟨"int4"⟩

def int8 : SqlType := ⟨"int8"⟩

def timestamptz : SqlType := ⟨"timestamptz"⟩

def textual : List SqlType := [⟨"name"⟩, ⟨"bpchar"⟩, ⟨"varchar"⟩, ⟨"unknown"⟩, ⟨"citext"⟩]

def shown (t : SqlType) : String :=
  match t.name.toList with
  | ['c', 'h', 'a', 'r'] => "\"CHAR\""
  | ['b', 'p', 'c', 'h', 'a', 'r'] => "CHAR"
  | '_' :: item => String.ofList (item.map Char.toUpper) ++ "[]"
  | name => String.ofList (name.map Char.toUpper)

end SqlType

def Column.type : Column → SqlType
  | acquireTime => .timestamptz
  | revokeRequestedAt => .timestamptz
  | createdAt => .timestamptz
  | updatedAt => .timestamptz
  | id => .int8
  | _ => .text

structure ResultColumn where
  name : String
  type : SqlType
deriving DecidableEq, Repr, Inhabited

def Column.asResult (c : Column) : ResultColumn := ⟨c.name, c.type⟩

inductive Relation where
  | locks
  | grants
deriving DecidableEq, Repr

namespace Relation

def name : Relation → String
  | locks => "project_locks"
  | grants => "lock_revoker_rights"

def columns : Relation → List Column
  | locks => [.lockId, .office, .project, .application, .acquireTime, .sessionUser, .osUser,
    .program, .machine, .revokeRequestedBy, .revokeRequestedAt]
  | grants => [.id, .office, .officeMask, .user, .projectMask, .applicationMask, .createdAt,
    .updatedAt]

def resultColumns (r : Relation) : List ResultColumn := r.columns.map (·.asResult)

def key : Relation → List Column
  | locks => [.office, .project, .application]
  | grants => [.office, .user, .projectMask, .applicationMask]

end Relation

inductive Value where
  | null
  | text (s : String)
  | bool (b : Bool)
  | int (n : Int)
  | time (t : Timestamp)
deriving DecidableEq, Repr, Inhabited

namespace Value

def ofText : Option String → Value
  | none => null
  | some s => text s

def text? : Value → Option String
  | text s => some s
  | _ => none

def bool? : Value → Option Bool
  | bool b => some b
  | _ => none

def int? : Value → Option Int
  | int n => some n
  | _ => none

def time? : Value → Option Timestamp
  | time t => some t
  | _ => none

def intBytes (n : Int) : List UInt8 :=
  let m := (n % 0x10000000000000000).toNat
  [56, 48, 40, 32, 24, 16, 8, 0].map fun place => (m >>> place).toUInt8

-- Microseconds from 1970 to 2000, from where the server counts.
def epoch : Int := 946684800000000

def bytes : Value → List UInt8
  | null => []
  | text s => Text.toUtf8 s.toList
  | bool b => [if b then 1 else 0]
  | int n => intBytes n
  | time t => intBytes (t.toNanos / 1000 - epoch)

def intOfBytes (bytes : List UInt8) : Int :=
  let n : Int := bytes.foldl (fun n b => 256 * n + b.toNat) 0
  if bytes.head?.any (0x80 ≤ ·) then n - Nat.pow 256 bytes.length else n

end Value

end LockRegistry.Database
