import LockRegistry.Text.Numeral

namespace LockRegistry

namespace Pattern

inductive Escape where
  | letter (c : Char)
  | set
  | anchor
deriving DecidableEq, Repr

def numbered? (count : Nat) (cs : List Char) : Option (Escape × List Char) := do
  let digits ← (cs.take count).mapM Text.hexValue?
  let n := digits.foldl (fun n d => 16 * n + d) 0
  if digits.length = count ∧ n.isValidChar then some (.letter (Char.ofNat n), cs.drop count)
  else none

def categories : List Char := ['c', 'l', 'm', 'n', 'p', 's', 'z']

def escape? : List Char → Option (Escape × List Char)
  | [] => none
  | c :: rest =>
    if c = 'x' then numbered? 2 rest
    else if c = 'u' then numbered? 4 rest
    else if c = 'U' then numbered? 8 rest
    else if c = 'p' ∨ c = 'P' then
      match rest with
      | name :: rest => if name.toLower ∈ categories then some (.set, rest) else none
      | [] => none
    else if c ∈ ['d', 'D', 's', 'S', 'w', 'W'] then some (.set, rest)
    else if c ∈ ['A', 'z'] then some (.anchor, rest)
    else if c ∈ ['a', 'f', 'n', 'r', 't', 'v'] then some (.letter c, rest)
    else if c.toNat < 0x80 ∧ !c.isAlphanum ∧ c ∉ ['<', '>'] then some (.letter c, rest)
    else none

def item? : List Char → Option (Option Char × List Char)
  | [] => none
  | '\\' :: rest =>
    match escape? rest with
    | some (.letter c, rest) => some (some c, rest)
    | some (.set, rest) => some (none, rest)
    | _ => none
  | c :: rest => some (some c, rest)

def range? (cs : List Char) : Option (List Char) := do
  let (low, rest) ← item? cs
  match rest with
  | '-' :: ']' :: _ => some rest
  | '-' :: '-' :: _ => some rest
  | '-' :: more =>
    match low, ← item? more with
    | some low, (some high, rest) => if low ≤ high then some rest else none
    | _, _ => none
  | _ => some rest

def namedClasses : List String :=
  ["alnum", "alpha", "ascii", "blank", "cntrl", "digit", "graph", "lower", "print", "punct",
    "space", "upper", "word", "xdigit"]

def afterNamed? (cs : List Char) : Option (List Char) :=
  match cs with
  | ':' :: rest =>
    let rest := if rest.head? = some '^' then rest.drop 1 else rest
    match rest.span (· ≠ ':') with
    | (name, ':' :: ']' :: rest) =>
      if namedClasses.contains (String.ofList name) then some rest else none
    | _ => none
  | _ => none

-- What follows the opening of a class: dashes or a bracket at its beginning are items of it.
def openClass (cs : List Char) : List Char :=
  let cs := if cs.head? = some '^' then cs.drop 1 else cs
  match cs with
  | '-' :: rest => rest.dropWhile (· = '-')
  | ']' :: rest => rest
  | cs => cs

def class? : Nat → Nat → List Char → Option (List Char)
  | 0, _, _ => none
  | fuel + 1, depth, cs =>
    match cs with
    | [] => none
    | '[' :: rest =>
      match afterNamed? rest with
      | some rest => class? fuel depth rest
      | none => class? fuel (depth + 1) (openClass rest)
    | ']' :: rest => if depth = 0 then some rest else class? fuel (depth - 1) rest
    | '&' :: '&' :: rest => class? fuel depth rest
    | '-' :: '-' :: rest => class? fuel depth rest
    | '~' :: '~' :: rest => class? fuel depth rest
    | cs => range? cs >>= class? fuel depth

def flagLetters : List Char := ['i', 'm', 's', 'U', 'u', 'R', 'x']

def flags? (found : List Char) : List Char → Option (Bool × List Char)
  | [] => none
  | c :: rest =>
    if c = ':' ∨ c = ')' then
      if found.head? = some '-' ∨ (c = ')' ∧ found = []) then none else some (c = ':', rest)
    else if (c = '-' ∨ c ∈ flagLetters) ∧ c ∉ found then flags? (c :: found) rest
    else none

def isNameStart (c : Char) : Bool := c.isAlpha || c == '_'

def isNameChar (c : Char) : Bool := c.isAlphanum || c ∈ ['_', '.', '[', ']']

def groupName? (cs : List Char) : Option (Bool × List Char) :=
  match cs.span (· ≠ '>') with
  | (c :: name, '>' :: rest) =>
    if isNameStart c && name.all isNameChar then some (true, rest) else none
  | _ => none

def group? : List Char → Option (Bool × List Char)
  | '<' :: rest => groupName? rest
  | 'P' :: '<' :: rest => groupName? rest
  | cs => flags? [] cs

def isRest : Nat → Nat → Bool → List Char → Bool
  | 0, _, _, _ => false
  | fuel + 1, depth, repeatable, cs =>
    match cs with
    | [] => depth == 0
    | '(' :: '?' :: rest =>
      match group? rest with
      | some (begins, rest) => isRest fuel (depth + begins.toNat) false rest
      | none => false
    | '(' :: rest => isRest fuel (depth + 1) false rest
    | ')' :: rest => 0 < depth && isRest fuel (depth - 1) true rest
    | '|' :: rest => isRest fuel depth false rest
    | '[' :: rest => (class? fuel 0 (openClass rest)).any (isRest fuel depth true)
    | '\\' :: rest => (escape? rest).any fun e => isRest fuel depth true e.2
    | c :: rest =>
      if c = '\x7b' then false
      else if c ∈ ['?', '*', '+'] then repeatable && isRest fuel depth true rest
      else isRest fuel depth true rest

def isPattern (cs : List Char) : Bool := isRest (cs.length + 1) 0 false cs

end Pattern

end LockRegistry
