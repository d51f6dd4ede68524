import LockRegistry.Database.Schema

namespace LockRegistry.Database

inductive Condition where
  | equals (column : Column) (param : Nat)
  | like (column : Column) (param : Nat)
deriving DecidableEq, Repr

inductive Source where
  | param (number : Nat)
  | now
  | proposed
deriving DecidableEq, Repr

structure Assignment where
  column : Column
  source : Source
deriving DecidableEq, Repr

inductive OnConflict where
  | nothing
  | update (set : List Assignment)
deriving DecidableEq, Repr

inductive Statement where
  | insert (relation : Relation) (columns : List Column) (conflict : OnConflict)
  | update (relation : Relation) (set : List Assignment) (conditions : List Condition)
  | delete (relation : Relation) (conditions : List Condition) (returning : Bool)
  | select (relation : Relation) (conditions : List Condition) (order : List Column)
  | selectExists (relation : Relation) (conditions : List Condition)
  | selectOne
deriving DecidableEq, Repr

def paramText (number : Nat) : String := s!"${number}"

def Condition.text : Condition → String
  | .equals column param => s!"{column.name} = " ++ paramText param
  | .like column param => s!"{column.name} ILIKE " ++ paramText param ++ " ESCAPE '\\'"

def Assignment.text (a : Assignment) : String :=
  s!"{a.column.name} = " ++ match a.source with
    | .param number => paramText number
    | .now => "NOW()"
    | .proposed => s!"EXCLUDED.{a.column.name}"

namespace Statement

def columnsText (columns : List Column) : String := ", ".intercalate (columns.map (·.name))

def setText (set : List Assignment) : String := ", ".intercalate (set.map (·.text))

def whereText (conditions : List Condition) : String :=
  if conditions.isEmpty then "" else " WHERE " ++ " AND ".intercalate (conditions.map (·.text))

def orderText (order : List Column) : String :=
  if order.isEmpty then "" else " ORDER BY " ++ columnsText order

def returningText (relation : Relation) : String := " RETURNING " ++ columnsText relation.columns

def conflictText : OnConflict → String
  | .nothing => "DO NOTHING"
  | .update set => "DO UPDATE SET " ++ setText set

def paramsText (count : Nat) : String :=
  ", ".intercalate ((List.range count).map fun i => paramText (i + 1))

def text : Statement → String
  | insert relation columns conflict =>
    s!"INSERT INTO {relation.name} (" ++ columnsText columns ++ ") VALUES (" ++
      paramsText columns.length ++ ") ON CONFLICT (" ++ columnsText relation.key ++ ") " ++
      conflictText conflict ++ returningText relation
  | update relation set conditions =>
    s!"UPDATE {relation.name} SET " ++ setText set ++ whereText conditions
  | delete relation conditions returning =>
    s!"DELETE FROM {relation.name}" ++ whereText conditions ++
      if returning then returningText relation else ""
  | select relation conditions order =>
    "SELECT " ++ columnsText relation.columns ++ s!" FROM {relation.name}" ++
      whereText conditions ++ orderText order
  | selectExists relation conditions =>
    s!"SELECT EXISTS (SELECT 1 FROM {relation.name}" ++ whereText conditions ++ ")"
  | selectOne => "SELECT 1"

def resultColumns : Statement → List ResultColumn
  | insert relation _ _ => relation.resultColumns
  | update _ _ _ => []
  | delete relation _ returning => if returning then relation.resultColumns else []
  | select relation _ _ => relation.resultColumns
  | selectExists _ _ => [⟨"exists", .bool⟩]
  | selectOne => [⟨"?column?", .int4⟩]

end Statement

end LockRegistry.Database
