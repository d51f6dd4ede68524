import LockRegistry.Mask
import LockRegistry.Time.Timestamp

namespace LockRegistry

structure GrantKey where
  office : String
  user : String
  projectMask : String
  applicationMask : String
deriving DecidableEq, Repr, Inhabited

namespace GrantKey

def ofRaw [Regex.Engine] (office user projectMask applicationMask : String) :
    Except ArgumentError GrantKey := do
  return {
    office := ← Field.office.normalize office
    user := ← Field.user.normalize user
    projectMask := (← Mask.ofString projectMask).pattern
    applicationMask := Text.lower (← Mask.ofString applicationMask).pattern }

def parts (k : GrantKey) : List String := [k.office, k.user, k.projectMask, k.applicationMask]

instance : Ord GrantKey := ⟨compareOn parts⟩

instance : Std.TransOrd GrantKey := inferInstanceAs (Std.TransCmp (compareOn parts))

theorem parts_inj {a b : GrantKey} (h : a.parts = b.parts) : a = b := by
  cases a; cases b; simp_all [parts]

instance : Std.LawfulEqOrd GrantKey :=
  ⟨fun {a b} h =>
    have same : compare a.parts b.parts = .eq := h
    parts_inj (Std.LawfulEqCmp.eq_of_compare same)⟩

end GrantKey

structure NewGrant where
  key : GrantKey
  officeMask : String
deriving DecidableEq, Repr, Inhabited

def NewGrant.ofRaw [Regex.Engine] (key : GrantKey) (officeMask : String) :
    Except ArgumentError NewGrant := do
  return ⟨key, Text.upper (← Mask.ofString officeMask).pattern⟩

structure Grant where
  id : Int
  office : String
  officeMask : String
  user : String
  projectMask : String
  applicationMask : String
  createdAt : Timestamp
  updatedAt : Timestamp
deriving DecidableEq, Repr, Inhabited

namespace Grant

-- The masks are read from left to right, up to the first that does not match.
def covers [Regex.Engine] (g : Grant) (office project application : String) :
    Except ArgumentError Bool := do
  if !Text.sameAscii g.office office then return false
  if !(← Mask.ofString g.officeMask).accepts office then return false
  if !(← Mask.ofString g.projectMask).accepts project then return false
  return (← Mask.ofString g.applicationMask).accepts application

end Grant

end LockRegistry
