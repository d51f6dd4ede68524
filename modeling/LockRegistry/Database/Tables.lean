import LockRegistry.Database.Like
import LockRegistry.Database.Server
import LockRegistry.Identifier

/-! What statements mean: the rows of the two relations, and how each statement changes them. -/

namespace LockRegistry.Database

@[ext]
structure Row where
  value : Column → Value

namespace Row

def set (row : Row) (c : Column) (v : Value) : Row :=
  ⟨fun c' => if c' = c then v else row.value c'⟩

def empty : Row := ⟨fun _ => .null⟩

def ofParams (columns : List Column) (q : Query) : Row :=
  columns.zipIdx.foldl (fun row c => row.set c.1 (q.param (c.2 + 1))) empty

def texts (row : Row) (columns : List Column) : List String :=
  columns.map fun c => ((row.value c).text?).getD ""

-- A null equals nothing.
def agrees (a b : Row) (columns : List Column) : Bool :=
  columns.all fun c => a.value c == b.value c && a.value c != .null

def isNull (row : Row) (c : Column) : Bool := row.value c == .null

end Row

def Condition.holds (q : Query) (row : Row) : Condition → Bool
  | .equals column param => row.value column == q.param param && !row.isNull column
  | .like column param =>
    match (q.param param).text?, (row.value column).text? with
    | some pattern, some text => Like.accepts pattern text
    | _, _ => false

def Row.satisfies (row : Row) (q : Query) (conditions : List Condition) : Bool :=
  conditions.all (·.holds q row)

def Row.assign (row proposed : Row) (q : Query) (now : Timestamp) (set : List Assignment) : Row :=
  set.foldl (fun r a => r.set a.column (match a.source with
    | .param number => q.param number
    | .now => .time now
    | .proposed => proposed.value a.column)) row

namespace Relation

def brokenCheck? (r : Relation) (row : Row) : Option String :=
  match r with
  | grants => none
  | locks =>
    if !((row.value .lockId).text?.any isLockId) then some "ck_project_locks_lock_id"
    else if row.isNull .revokeRequestedBy != row.isNull .revokeRequestedAt then
      some "ck_project_locks_revoke_pair"
    else none

def checkError (r : Relation) (constraint : String) : DatabaseError :=
  .refused s!"new row for relation \"{r.name}\" violates check constraint \"{constraint}\""

def primaryKey : Relation → Column × String
  | locks => (.lockId, "project_locks_pkey")
  | grants => (.id, "lock_revoker_rights_pkey")

def duplicateError (r : Relation) : DatabaseError :=
  .refused s!"duplicate key value violates unique constraint \"{r.primaryKey.2}\""

end Relation

structure Tables where
  locks : List Row := []
  grants : List Row := []
  lastId : Int := 0

instance : Inhabited Tables := ⟨{}⟩

namespace Tables

def rows (t : Tables) : Relation → List Row
  | .locks => t.locks
  | .grants => t.grants

def withRows (t : Tables) (r : Relation) (rows : List Row) : Tables :=
  match r with
  | .locks => { t with locks := rows }
  | .grants => { t with grants := rows }

-- A grant draws a number, whether it will be kept or not.
def complete (t : Tables) (now : Timestamp) (row : Row) : Relation → Row × Tables
  | .locks => (row.set .acquireTime (.time now), t)
  | .grants =>
    ((row.set .id (.int (t.lastId + 1))).set .createdAt (.time now) |>.set .updatedAt (.time now),
      { t with lastId := t.lastId + 1 })

def result (r : Relation) (rows : List Row) : ResultSet :=
  ⟨r.resultColumns, rows.map fun row => r.columns.map row.value, rows.length⟩

def insert (t : Tables) (now : Timestamp) (q : Query) (r : Relation) (columns : List Column)
    (conflict : OnConflict) : Except DatabaseError ResultSet × Tables :=
  let (row, t) := t.complete now (.ofParams columns q) r
  match r.brokenCheck? row with
  | some constraint => (.error (r.checkError constraint), t)
  | none =>
    if (t.rows r).any (·.agrees row r.key) then
      match conflict with
      | .nothing => (.ok (result r []), t)
      | .update set =>
        let change (old : Row) := if old.agrees row r.key then old.assign row q now set else old
        let rows := (t.rows r).map change
        (.ok (result r (rows.filter (·.agrees row r.key))), t.withRows r rows)
    else if (t.rows r).any (·.agrees row [r.primaryKey.1]) then (.error r.duplicateError, t)
    else (.ok (result r [row]), t.withRows r (t.rows r ++ [row]))

def update (t : Tables) (now : Timestamp) (q : Query) (r : Relation) (set : List Assignment)
    (conditions : List Condition) : Except DatabaseError ResultSet × Tables :=
  let chosen := (t.rows r).filter (·.satisfies q conditions)
  match (chosen.map fun row => row.assign row q now set).findSome? r.brokenCheck? with
  | some constraint => (.error (r.checkError constraint), t)
  | none =>
    let rows := (t.rows r).map fun row =>
      if row.satisfies q conditions then row.assign row q now set else row
    (.ok ⟨[], [], chosen.length⟩, t.withRows r rows)

def delete (t : Tables) (q : Query) (r : Relation) (conditions : List Condition)
    (returning : Bool) : Except DatabaseError ResultSet × Tables :=
  let (gone, kept) := (t.rows r).partition (·.satisfies q conditions)
  (.ok (if returning then result r gone else ⟨[], [], gone.length⟩), t.withRows r kept)

def sort (order : List Column) (rows : List Row) : List Row :=
  rows.mergeSort fun a b => (compare (a.texts order) (b.texts order)).isLE

def select (t : Tables) (q : Query) (r : Relation) (conditions : List Condition)
    (order : List Column) : ResultSet :=
  result r (sort order ((t.rows r).filter (·.satisfies q conditions)))

def answer (t : Tables) (now : Timestamp) (q : Query) : Except DatabaseError ResultSet × Tables :=
  match q.statement with
  | .insert r columns conflict => t.insert now q r columns conflict
  | .update r set conditions => t.update now q r set conditions
  | .delete r conditions returning => t.delete q r conditions returning
  | .select r conditions order => (.ok (t.select q r conditions order), t)
  | .selectExists r conditions =>
    (.ok ⟨q.statement.resultColumns, [[.bool ((t.rows r).any (·.satisfies q conditions))]], 1⟩, t)
  | .selectOne => (.ok ⟨q.statement.resultColumns, [[.int 1]], 1⟩, t)

def server : Server Tables where
  connect _ _ := .ok ()
  answer := answer
  migrate t := (.ok (), t)

end Tables

end LockRegistry.Database
