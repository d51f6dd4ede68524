import LockRegistry.Text.Ranges

namespace LockRegistry.Text

def blankRanges : List (Nat × Nat) :=
  [(0x09, 0x0D), (0x20, 0x20), (0x85, 0x85), (0xA0, 0xA0), (0x1680, 0x1680), (0x2000, 0x200A),
    (0x2028, 0x2029), (0x202F, 0x202F), (0x205F, 0x205F), (0x3000, 0x3000)]

def isBlank (c : Char) : Bool := inRanges blankRanges c

def dropBlank (cs : List Char) : List Char := cs.dropWhile isBlank

def trimList (cs : List Char) : List Char := (dropBlank (dropBlank cs).reverse).reverse

def trim (s : String) : String := String.ofList (trimList s.toList)

theorem toList_trim (s : String) : (trim s).toList = trimList s.toList := by
  simp [trim]

end LockRegistry.Text
