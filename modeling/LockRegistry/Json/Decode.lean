import LockRegistry.Json
import LockRegistry.Mask
import LockRegistry.Session

namespace LockRegistry

inductive DecodeError where
  | invalidType (found expected : String)
  | invalidLength (length : Nat) (expected : String)
  | missing (field : String)
  | refused (cause : ArgumentError)
deriving DecidableEq, Repr

namespace DecodeError

def message : DecodeError → String
  | invalidType found expected => s!"invalid type: {found}, expected {expected}"
  | invalidLength length expected => s!"invalid length {length}, expected {expected}"
  | missing field => s!"missing field `{field}`"
  | refused cause => cause.message

end DecodeError

namespace Json

def kind : Json → String
  | null => "null"
  | bool b => s!"boolean `{b}`"
  | int n => s!"integer `{n}`"
  | float negative x => "floating point `" ++ floatText negative x ++ "`"
  | str s => "string " ++ Text.quote s
  | arr _ => "sequence"
  | obj _ => "map"

def mismatch (j : Json) (expected : String) : DecodeError := .invalidType j.kind expected

def string : Json → Except DecodeError String
  | str s => .ok s
  | j => .error (j.mismatch "a string")

def optionalString : Json → Except DecodeError (Option String)
  | null => .ok none
  | j => j.string.map some

end Json

structure RecordShape (α : Type) where
  name : String
  fields : List String
  decode : Json → Except DecodeError α
  absent : Option α

namespace RecordShape

variable {α : Type}

def readFields (s : RecordShape α) (fields : List (String × Json)) :
    Except DecodeError (List (String × α)) := do
  let known := fields.filter fun f => s.fields.contains f.1
  let found ← (known.mergeSort fun a b => a.1 ≤ b.1).mapM fun f => do return (f.1, ← s.decode f.2)
  s.fields.mapM fun name =>
    match found.lookup name, s.absent with
    | some a, _ => .ok (name, a)
    | none, some a => .ok (name, a)
    | none, none => .error (.missing name)

def readItems (s : RecordShape α) (items : List Json) :
    Except DecodeError (List (String × α)) := do
  let found ← (s.fields.zip items).mapM fun f => do return (f.1, ← s.decode f.2)
  if items.length < s.fields.length then
    .error (.invalidLength items.length s!"struct {s.name} with {s.fields.length} elements")
  else if s.fields.length < items.length then
    .error (.invalidLength items.length "fewer elements in array")
  else .ok found

def read [Inhabited α] (s : RecordShape α) (j : Json) : Except DecodeError (String → α) := do
  let values ← match j with
    | .obj fields => s.readFields fields
    | .arr items => s.readItems items
    | j => .error (j.mismatch ("struct " ++ s.name))
  return fun name => (values.lookup name).getD default

end RecordShape

section Masks

variable [Regex.Engine]

def Mask.ofJson (j : Json) : Except DecodeError Mask := do
  (Mask.ofString (← j.string)).mapError .refused

def CatalogFilter.shape : RecordShape Mask where
  name := "CatalogFilter"
  fields := ["office", "project", "application"]
  decode := Mask.ofJson
  absent := none

def CatalogFilter.ofJson (j : Json) : Except DecodeError CatalogFilter := do
  let field ← CatalogFilter.shape.read j
  return ⟨field "office", field "project", field "application"⟩

end Masks

def SessionInfo.shape : RecordShape (Option String) where
  name := "SessionInfo"
  fields := ["session_user", "os_user", "session_program", "session_machine"]
  decode := Json.optionalString
  absent := some none

def SessionInfo.ofJson (j : Json) : Except DecodeError SessionInfo := do
  let field ← SessionInfo.shape.read j
  return ⟨field "session_user", field "os_user", field "session_program", field "session_machine"⟩

end LockRegistry
