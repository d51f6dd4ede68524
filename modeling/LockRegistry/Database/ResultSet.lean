import LockRegistry.Database.Schema
import LockRegistry.Store.Call

namespace LockRegistry.Database

structure Record where
  columns : List ResultColumn
  values : List Value
deriving DecidableEq, Repr

structure ResultSet where
  columns : List ResultColumn := []
  rows : List (List Value) := []
  affected : Nat := 0
deriving DecidableEq, Repr, Inhabited

def ResultSet.records (r : ResultSet) : List Record := r.rows.map fun row => ⟨r.columns, row⟩

structure FieldType (α : Type) where
  valueType : String
  expected : SqlType
  others : List SqlType := []
  value? : Value → Option α
  ofBytes : List UInt8 → Except String α

namespace FieldType

def text : FieldType String where
  valueType := "alloc::string::String"
  expected := .text
  others := SqlType.textual
  value? := Value.text?
  ofBytes bytes := (Text.ofUtf8 bytes).mapError (·.message)

def bool : FieldType Bool where
  valueType := "bool"
  expected := .bool
  value? := Value.bool?
  ofBytes bytes := .ok (bytes.head?.any (· ≠ 0))

def noIntText : String := "Value Buffer found empty while decoding to integer type"

def longIntText (length : Nat) : String :=
  "Value Buffer exceeds 8 bytes while decoding to integer type. " ++
    s!"Buffer size = {length} bytes "

def readInt (bytes : List UInt8) : Except String Int :=
  if bytes.isEmpty then .error noIntText
  else if 8 < bytes.length then .error (longIntText bytes.length)
  else .ok (Value.intOfBytes bytes)

def int : FieldType Int where
  valueType := "i64"
  expected := .int8
  value? := Value.int?
  ofBytes := readInt

def time : FieldType Timestamp where
  valueType := "chrono::datetime::DateTime<chrono::offset::utc::Utc>"
  expected := .timestamptz
  value? := Value.time?
  ofBytes bytes := (readInt bytes).map fun n => .ofMicros (n + Value.epoch)

variable {α : Type}

def accepts (f : FieldType α) (t : SqlType) : Bool := t = f.expected || t ∈ f.others

def read (f : FieldType α) (valueType : String) (column : ColumnRef) (cell : ResultColumn × Value) :
    Except DatabaseError (Option α) :=
  if cell.2 = .null then .ok none
  else if f.accepts cell.1.type then
    match f.value? cell.2 with
    | some a => .ok (some a)
    | none => (f.ofBytes cell.2.bytes).map some |>.mapError (.undecodable column)
  else .error (.mismatchedType column valueType f.expected.shown cell.1.type.shown)

def optional (f : FieldType α) (column : ColumnRef) (cell : ResultColumn × Value) :
    Except DatabaseError (Option α) :=
  f.read ("core::option::Option<" ++ f.valueType ++ ">") column cell

def required (f : FieldType α) (column : ColumnRef) (cell : ResultColumn × Value) :
    Except DatabaseError α := do
  (← f.read f.valueType column cell).elim (.error (.unexpectedNull column)) .ok

end FieldType

namespace Record

variable {α : Type}

def cells (r : Record) : List (ResultColumn × Value) := r.columns.zip r.values

-- the value in the row whose insert was in conflict
def cell (r : Record) (c : Column) : Except DatabaseError (ResultColumn × Value) :=
  (r.cells.reverse.find? (·.1.name == c.name)).elim (.error (.missingColumn c.name)) .ok

def optional (r : Record) (f : FieldType α) (c : Column) : Except DatabaseError (Option α) := do
  f.optional (.named c.name) (← r.cell c)

def required (r : Record) (f : FieldType α) (c : Column) : Except DatabaseError α := do
  f.required (.named c.name) (← r.cell c)

def lock (r : Record) : Except DatabaseError Lock := do
  return {
    lockId := ← r.required .text .lockId
    office := ← r.required .text .office
    project := ← r.required .text .project
    application := ← r.required .text .application
    acquireTime := ← r.required .time .acquireTime
    session := {
      sessionUser := ← r.optional .text .sessionUser
      osUser := ← r.optional .text .osUser
      program := ← r.optional .text .program
      machine := ← r.optional .text .machine }
    revokeRequestedBy := ← r.optional .text .revokeRequestedBy
    revokeRequestedAt := ← r.optional .time .revokeRequestedAt }

def grant (r : Record) : Except DatabaseError Grant := do
  return {
    id := ← r.required .int .id
    office := ← r.required .text .office
    officeMask := ← r.required .text .officeMask
    user := ← r.required .text .user
    projectMask := ← r.required .text .projectMask
    applicationMask := ← r.required .text .applicationMask
    createdAt := ← r.required .time .createdAt
    updatedAt := ← r.required .time .updatedAt }

def truth (r : Record) : Except DatabaseError Bool :=
  r.cells.head?.elim (.error (.missingPlace 0 0)) (FieldType.bool.required (.place 0))

end Record

namespace ResultSet

def firstLock? (r : ResultSet) : Except DatabaseError (Option Lock) := r.records.head?.mapM (·.lock)

def first (r : ResultSet) : Except DatabaseError Record := r.records.head?.elim (.error .noRow) .ok

def reply (r : ResultSet) : (c : Call) → Except DatabaseError c.Reply
  | .insertLock _ => r.firstLock?
  | .deleteLockNamed _ _ => .ok (0 < r.affected : Bool)
  | .markRevocation _ _ _ => .ok (0 < r.affected : Bool)
  | .deleteLock _ => r.firstLock?
  | .findLock _ => r.firstLock?
  | .findLockNamed _ _ => r.firstLock?
  | .lockExists _ => r.first >>= Record.truth
  | .listLocks _ => r.records.mapM Record.lock
  | .upsertGrant _ => r.first >>= Record.grant
  | .deleteGrant _ => .ok (0 < r.affected : Bool)
  | .deleteGrants _ _ _ _ => .ok r.affected
  | .grantsOf _ => r.records.mapM Record.grant
  | .listGrants _ => r.records.mapM Record.grant

end ResultSet

end LockRegistry.Database
