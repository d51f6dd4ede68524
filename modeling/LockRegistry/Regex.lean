import LockRegistry.Text.Case

/-! Regular expressions, and what they find. The engine that compiles and runs them is a parameter
of all that is built on masks. -/

namespace LockRegistry.Regex

structure Flags where
  ignoreCase : Bool := false
  dotAll : Bool := false
deriving DecidableEq, Repr

inductive Atom where
  | any
  | char (c : Char)
deriving DecidableEq, Repr

structure Item where
  atom : Atom
  starred : Bool := false
deriving DecidableEq, Repr

structure Expression where
  flags : Flags := {}
  fromStart : Bool := false
  toEnd : Bool := false
  items : List Item
deriving DecidableEq, Repr

section Writing

variable (escape : String → String)

def Flags.text (f : Flags) : List Char :=
  if f.ignoreCase || f.dotAll then
    '(' :: '?' ::
      ((if f.ignoreCase then ['i'] else []) ++ (if f.dotAll then ['s'] else []) ++ [')'])
  else []

def Atom.text : Atom → List Char
  | any => ['.']
  | char c => (escape (String.singleton c)).toList

def Item.text (i : Item) : List Char := i.atom.text escape ++ if i.starred then ['*'] else []

def Expression.text (e : Expression) : String :=
  String.ofList (e.flags.text ++ ((if e.fromStart then ['^'] else []) ++
    (e.items.flatMap (Item.text escape) ++ if e.toEnd then ['$'] else [])))

end Writing

def Atom.Takes (f : Flags) : Atom → Char → Prop
  | any, c => f.dotAll = true ∨ c ≠ '\n'
  | char d, c => c = d ∨ f.ignoreCase = true ∧ Text.sameLetter c d = true

-- A text that is matched whole, with as many rounds of each starred item as it takes.
inductive Covers (f : Flags) : List Item → List Char → Prop
  | nil : Covers f [] []
  | once {a p c text} (takes : a.Takes f c) (rest : Covers f p text) :
      Covers f (⟨a, false⟩ :: p) (c :: text)
  | skip {a p text} (rest : Covers f p text) : Covers f (⟨a, true⟩ :: p) text
  | again {a p c text} (takes : a.Takes f c) (rest : Covers f (⟨a, true⟩ :: p) text) :
      Covers f (⟨a, true⟩ :: p) (c :: text)

-- Somewhere in the text, unless an anchor says where.
def Expression.Finds (e : Expression) (text : List Char) : Prop :=
  ∃ before piece after, text = before ++ (piece ++ after) ∧ (e.fromStart = true → before = []) ∧
    (e.toEnd = true → after = []) ∧ Covers e.flags e.items piece

-- An engine refuses what takes too much room when it is compiled, which a few characters do not.
class Engine where
  escape : String → String
  compile : String → Except String Unit
  isMatch : String → String → Bool
  isMatch_iff (e : Expression) (value : String) :
    isMatch (e.text escape) value = true ↔ e.Finds value.toList
  compile_short (e : Expression) : e.items.length ≤ 128 → compile (e.text escape) = .ok ()

export Engine (escape compile isMatch isMatch_iff compile_short)

end LockRegistry.Regex
