import LockRegistry.Config
import LockRegistry.Text.Alphanumeric
import LockRegistry.Text.Blank

/-! Files of environment variables. A variable that is set already keeps its value, and the first
line that cannot be read ends the file. -/

namespace LockRegistry

def Environment.define (env : Environment) (name value : String) : Environment :=
  if (env.get? name).isSome then env else env ++ [(name, value)]

namespace EnvironmentFile

inductive LineState where
  | closed
  | blank
  | escape
  | single
  | singleEscape
  | double
  | doubleEscape
deriving DecidableEq, Repr

def LineState.afterPlain (c : Char) : LineState :=
  if c = '\\' then escape else if c = '"' then double else if c = '\'' then single else closed

def LineState.next (s : LineState) (c : Char) : Option LineState :=
  match s with
  | closed =>
    if Text.isBlank c ∧ c ≠ '\n' ∧ c ≠ '\r' then some blank else some (afterPlain c)
  | blank => if c = '#' then none else some (afterPlain c)
  | escape => some closed
  | single => some (if c = '\\' then singleEscape else if c = '\'' then closed else single)
  | singleEscape => some single
  | double => some (if c = '\\' then doubleEscape else if c = '"' then closed else double)
  | doubleEscape => some double

def scan (s : LineState) : List Char → List Char × Option LineState
  | [] => ([], some s)
  | c :: rest =>
    match s.next c with
    | none => ([], none)
    | some s =>
      let (kept, final) := scan s rest
      (c :: kept, final)

def rawLines : List Char → List (List Char)
  | [] => []
  | c :: rest =>
    if c = '\n' then [c] :: rawLines rest
    else match rawLines rest with
      | [] => [[c]]
      | line :: lines => (c :: line) :: lines

def withoutBreak (line : List Char) : List Char :=
  match line.reverse with
  | '\n' :: '\r' :: rest => rest.reverse
  | '\n' :: rest => rest.reverse
  | _ => line

-- Joins the lines that belong together, and cuts comments off. The last is `none` if the text ends
-- within it.
def logicalLines (before : List Char) (s : LineState) : List (List Char) → List (Option (List Char))
  | [] => if s = .closed then [] else [none]
  | raw :: rest =>
    let line := before ++ raw
    if (Text.dropBlank line).head? = some '#' then some [] :: logicalLines [] .closed rest
    else match scan s raw with
      | (kept, none) => some (before ++ kept) :: logicalLines [] .closed rest
      | (_, some .closed) => some (withoutBreak line) :: logicalLines [] .closed rest
      | (_, some s) => logicalLines line s rest

def isNameStart (c : Char) : Bool := c.isAlpha || c == '_'

def isNameChar (c : Char) : Bool := c.isAlphanum || c == '_' || c == '.'

def name? : List Char → Option (String × List Char)
  | [] => none
  | c :: rest =>
    if isNameStart c then
      some (String.ofList (c :: rest.takeWhile isNameChar),
        Text.dropBlank (rest.dropWhile isNameChar))
    else none

def afterEquals? : List Char → Option (List Char)
  | '=' :: rest => some (Text.dropBlank rest)
  | _ => none

-- The word `export` may come first; it can also be the name.
def assignment? (line : List Char) : Option (String × List Char) := do
  let (name, rest) ← name? line
  match name, afterEquals? rest with
  | _, some value => some (name, value)
  | "export", none =>
    let (name, rest) ← name? rest
    return (name, ← afterEquals? rest)
  | _, none => none

inductive ValueMode where
  | plain
  | escape
  | reference
  | braced
  | ended
  | comment
deriving DecidableEq, Repr

inductive Quote where
  | single
  | double
deriving DecidableEq, Repr

structure ValueReader where
  quote : Option Quote := none
  mode : ValueMode := .plain
  name : List Char := []
  output : String := ""
deriving DecidableEq, Repr

namespace ValueReader

def push (r : ValueReader) (c : Char) : ValueReader := { r with output := r.output.push c }

def resolve (env : Environment) (r : ValueReader) : ValueReader :=
  let value := (env.get? (String.ofList r.name)).getD ""
  { r with mode := .plain, name := [], output := r.output ++ value }

def escaped (r : ValueReader) (c : Char) : Option ValueReader :=
  let r := { r with mode := .plain }
  if c ∈ ['\\', '\'', '"', '$', ' '] then some (r.push c)
  else if c = 'n' then some (r.push '\n')
  else none

def plain (r : ValueReader) (c : Char) : ValueReader :=
  if c = '$' then { r with mode := .reference }
  else if c = '\\' then { r with mode := .escape }
  else match r.quote with
    | none =>
      if c = '\'' then { r with quote := some .single }
      else if c = '"' then { r with quote := some .double }
      else if c = ' ' ∨ c = '\t' then { r with mode := .ended }
      else r.push c
    | some _ => if c = '"' then { r with quote := none } else r.push c

-- The character that ends a name is taken as it is, unless it begins another reference.
def referring (env : Environment) (r : ValueReader) (c : Char) : ValueReader :=
  if Text.isAlphanumeric c then { r with name := r.name ++ [c] }
  else if c = '\x7b' ∧ r.name = [] then { r with mode := .braced }
  else
    let r := r.resolve env
    if c = '$' then { r with mode := .reference } else r.push c

def step (env : Environment) (r : ValueReader) (c : Char) : Option ValueReader :=
  match r.mode with
  | .ended =>
    if c = ' ' ∨ c = '\t' then some r
    else if c = '#' then some { r with mode := .comment }
    else none
  | .comment => some r
  | .escape => r.escaped c
  | .reference => some (r.referring env c)
  | .braced =>
    if c = '\x7d' then some (r.resolve env) else some { r with name := r.name ++ [c] }
  | .plain =>
    if r.quote = some .single then
      some (if c = '\'' then { r with quote := none } else r.push c)
    else some (r.plain c)

def result? (env : Environment) (r : ValueReader) : Option String :=
  if r.mode = .braced ∨ r.quote.isSome then none
  else some (r.resolve env).output

end ValueReader

def value? (env : Environment) (text : List Char) : Option String := do
  if text.isEmpty ∨ text.head? = some '#' then return ""
  (← text.foldlM (ValueReader.step env) {}).result? env

def applyLine (env : Environment) (line : List Char) : Option Environment := do
  let line := Text.trimList line
  if line.isEmpty ∨ line.head? = some '#' then return env
  let (name, text) ← assignment? line
  return env.define name (← value? env text)

def applyLines (env : Environment) : List (Option (List Char)) → Environment
  | some line :: rest =>
    match applyLine env line with
    | some env => applyLines env rest
    | none => env
  | _ => env

def runs (test : Char → Bool) (text : List Char) : List String :=
  ((text.splitBy fun a b => test a == test b).filter (·.all test)).map String.ofList

def names (text : String) : List String :=
  (runs isNameChar text.toList ++ runs Text.isAlphanumeric text.toList).eraseDups

def withoutMark : List Char → List Char
  | '\ufeff' :: rest => rest
  | text => text

def load (env : Environment) (text : String) : Environment :=
  applyLines env (logicalLines [] .closed (rawLines (withoutMark text.toList)))

end EnvironmentFile

end LockRegistry
