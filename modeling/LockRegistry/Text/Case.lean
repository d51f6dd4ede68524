import LockRegistry.Text.CaseTable
import LockRegistry.Text.Ranges

/-! Capital and small forms of texts, which may be longer than the text, and the folding under which
two letters count as equal. -/

namespace LockRegistry.Text

def moveBy (runs : List CaseRun) (n : Nat) : Nat := (runs.findSome? (·.image? n)).getD n

def mapLetter (runs : List CaseRun) (long : List (Nat × List Nat)) (c : Char) : List Char :=
  match long.lookup c.toNat with
  | some codes => codes.map Char.ofNat
  | none => [Char.ofNat (moveBy runs c.toNat)]

def upperLetter (c : Char) : List Char :=
  if c.toNat < 0x80 then [c.toUpper] else mapLetter upperRuns upperLong c

def lowerLetter (c : Char) : List Char :=
  if c.toNat < 0x80 then [c.toLower] else mapLetter lowerRuns lowerLong c

def fold (c : Char) : Char :=
  if c.toNat < 0x80 then c.toLower else Char.ofNat (moveBy foldRuns c.toNat)

def isCased (c : Char) : Bool := inRanges casedRanges c

def isCaseIgnorable (c : Char) : Bool := inRanges caseIgnorableRanges c

def startsCased (cs : List Char) : Bool :=
  match cs.dropWhile isCaseIgnorable with
  | [] => false
  | c :: _ => isCased c

-- `inWord` tells whether a letter with case precedes.
def lowerFrom (inWord : Bool) : List Char → List Char
  | [] => []
  | c :: rest =>
    (if c = 'Σ' then [if inWord && !startsCased rest then 'ς' else 'σ'] else lowerLetter c) ++
      lowerFrom (if isCaseIgnorable c then inWord else isCased c) rest

def upper (s : String) : String := String.ofList (s.toList.flatMap upperLetter)

def lower (s : String) : String := String.ofList (lowerFrom false s.toList)

def sameLetter (a b : Char) : Bool := fold a == fold b

theorem sameLetter_refl (a : Char) : sameLetter a a = true := by simp [sameLetter]

theorem sameLetter_iff {a b : Char} : sameLetter a b = true ↔ fold a = fold b := by
  simp [sameLetter]

theorem toList_upper (s : String) : (upper s).toList = s.toList.flatMap upperLetter := by
  simp [upper]

theorem toList_lower (s : String) : (lower s).toList = lowerFrom false s.toList := by
  simp [lower]

def sameAscii (a b : String) : Bool := a.toList.map Char.toLower == b.toList.map Char.toLower

end LockRegistry.Text
