import LockRegistry.Identifier
import LockRegistry.Regex

/-! Masks: the trimmed text of a glob pattern, and the regular expression that is written for it. A
blank text and stars alone give the mask `*`, which matches everything and has no expression. -/

namespace LockRegistry

structure Mask where
  pattern : String
deriving DecidableEq, Repr

namespace Mask

def any : Mask := ⟨"*"⟩

instance : Inhabited Mask := ⟨any⟩

section Compiling

variable [Regex.Engine]

def piece (c : Char) : List Char :=
  if c = runWildcard then ['.', '*']
  else if c = oneWildcard then ['.']
  else (Regex.escape (String.singleton c)).toList

def source (pattern : String) : String :=
  "(?is)^" ++ String.ofList (pattern.toList.flatMap piece) ++ "$"

def regex? (m : Mask) : Option String :=
  if m.pattern = any.pattern then none else some (source m.pattern)

def ofString (raw : String) : Except ArgumentError Mask :=
  let pattern := Text.trim raw
  if pattern.toList.all (· == runWildcard) then .ok any
  else
    match Regex.compile (source pattern) with
    | .ok () => .ok ⟨pattern⟩
    | .error reason => .error (.maskRefused pattern reason)

def ofOption : Option String → Except ArgumentError Mask
  | none => .ok any
  | some raw => ofString raw

def isAny (m : Mask) : Bool := m.regex?.isNone

def accepts (m : Mask) (value : String) : Bool :=
  match m.regex? with
  | none => true
  | some source => Regex.isMatch source value

end Compiling

def hasWildcard (m : Mask) : Bool := LockRegistry.hasWildcard m.pattern

def likeEscape : Char := '\\'

def likeChar (c : Char) : List Char :=
  if c = runWildcard then ['%']
  else if c = oneWildcard then ['_']
  else if c = '%' ∨ c = '_' ∨ c = likeEscape then [likeEscape, c]
  else [c]

def like (m : Mask) : String := String.ofList (m.pattern.toList.flatMap likeChar)

theorem toList_like (m : Mask) : m.like.toList = m.pattern.toList.flatMap likeChar := by
  simp [like]

end Mask

structure CatalogFilter where
  office : Mask := .any
  project : Mask := .any
  application : Mask := .any
deriving DecidableEq, Repr, Inhabited

namespace CatalogFilter

variable [Regex.Engine]

def ofRaw (project application office : Option String) : Except ArgumentError CatalogFilter := do
  return {
    office := ← Mask.ofOption office
    project := ← Mask.ofOption project
    application := ← Mask.ofOption application }

def accepts (f : CatalogFilter) (office project application : String) : Bool :=
  f.office.accepts office && f.project.accepts project && f.application.accepts application

end CatalogFilter

end LockRegistry
