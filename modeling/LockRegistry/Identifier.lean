import LockRegistry.Error
import LockRegistry.Text.Blank
import LockRegistry.Text.Case

/-! Identifiers in normal form: trimmed, not empty, free of wildcards, bounded in length, in one
case. -/

namespace LockRegistry

def runWildcard : Char := '*'

def oneWildcard : Char := '?'

def isWildcard (c : Char) : Bool := c == runWildcard || c == oneWildcard

def hasWildcard (s : String) : Bool := s.toList.any isWildcard

inductive Field where
  | office
  | project
  | application
  | user
deriving DecidableEq, Repr

namespace Field

def label : Field → String
  | office => "office_id"
  | project => "project_id"
  | application => "application_id"
  | user => "user_id"

-- In characters, counted before the case is changed.
def limit : Field → Nat
  | office => 16
  | project => 57
  | application => 64
  | user => 128

def casing : Field → String → String
  | office => Text.upper
  | application => Text.lower
  | project | user => id

def check (f : Field) (value : String) : Except ArgumentError Unit :=
  if value.isEmpty then .error (.blank f.label)
  else if hasWildcard value then .error (.wildcard f.label value)
  else if f.limit < value.length then .error (.tooLong f.label f.limit value.length)
  else .ok ()

def normalize (f : Field) (raw : String) : Except ArgumentError String :=
  (f.check (Text.trim raw)).map fun _ => f.casing (Text.trim raw)

theorem normalize_eq_ok_iff {f : Field} {raw value : String} :
    f.normalize raw = .ok value ↔
      f.check (Text.trim raw) = .ok () ∧ value = f.casing (Text.trim raw) := by
  cases h : f.check (Text.trim raw) <;> simp [normalize, h, Except.map, eq_comm]

theorem check_eq_ok_iff {f : Field} {value : String} :
    f.check value = .ok () ↔
      value ≠ "" ∧ hasWildcard value = false ∧ value.length ≤ f.limit := by
  unfold check
  split
  · simp_all
  · split
    · simp_all
    · split
      · rename_i long
        simp [Nat.not_le.2 long]
      · rename_i short
        simp_all [Nat.le_of_not_lt short]

end Field

def lockIdLength : Nat := 32

def isLockIdChar (c : Char) : Bool := c.isDigit || ('a' ≤ c && c ≤ 'f')

def isLockId (s : String) : Bool := s.length == lockIdLength && s.toList.all isLockIdChar

def lockIdOfNat (n : Nat) : String :=
  let digits := Text.hexDigits n
  String.ofList (List.replicate (lockIdLength - digits.length) '0' ++ digits)

end LockRegistry
