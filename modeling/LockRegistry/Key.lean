import LockRegistry.Identifier

namespace LockRegistry

structure LockKey where
  office : String
  project : String
  application : String
deriving DecidableEq, Repr, Inhabited

namespace LockKey

def ofRaw (office project application : String) : Except ArgumentError LockKey := do
  return {
    office := ← Field.office.normalize office
    project := ← Field.project.normalize project
    application := ← Field.application.normalize application }

def text (k : LockKey) : String := s!"{k.office}/{k.project}/{k.application}"

def parts (k : LockKey) : List String := [k.office, k.project, k.application]

instance : Ord LockKey := ⟨compareOn parts⟩

instance : Std.TransOrd LockKey := inferInstanceAs (Std.TransCmp (compareOn parts))

theorem parts_inj {a b : LockKey} (h : a.parts = b.parts) : a = b := by
  cases a; cases b; simp_all [parts]

instance : Std.LawfulEqOrd LockKey :=
  ⟨fun {a b} h =>
    have same : compare a.parts b.parts = .eq := h
    parts_inj (Std.LawfulEqCmp.eq_of_compare same)⟩

def sortDistinct (keys : List LockKey) : List LockKey :=
  (keys.mergeSort fun a b => (compare a b).isLE).eraseDups

end LockKey

end LockRegistry
