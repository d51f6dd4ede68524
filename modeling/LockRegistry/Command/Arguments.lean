import LockRegistry.Command

/-! Command lines are read in one pass by a declaration of subcommands, options and positional
arguments. The checks of a subcommand come before those of the command around it. -/

namespace LockRegistry

namespace Arguments

inductive OptionKind where
  | flag
  | help
  | version
  -- The next argument is its value also if it looks like a negative number, or even like any
  -- option.
  | value (negative hyphens : Bool)
deriving DecidableEq, Repr

structure OptionSpec where
  id : String
  longs : List String := [id]
  short : Option Char := none
  kind : OptionKind := .value false false
  check : String → Except UsageError Unit := fun _ => .ok ()

inductive CommandSpec where
  | mk (name : String) (options : List OptionSpec) (positionals : List String)
    (subcommands : List CommandSpec)

namespace CommandSpec

def name : CommandSpec → String
  | mk name _ _ _ => name

def options : CommandSpec → List OptionSpec
  | mk _ options _ _ => options

def positionals : CommandSpec → List String
  | mk _ _ positionals _ => positionals

def subcommands : CommandSpec → List CommandSpec
  | mk _ _ _ subcommands => subcommands

def subcommand? (s : CommandSpec) (word : String) : Option CommandSpec :=
  s.subcommands.find? (·.name == word)

def helpWord : String := "help"

def isSubcommand (s : CommandSpec) (word : String) : Bool :=
  !s.subcommands.isEmpty && (word == helpWord || (s.subcommand? word).isSome)

def long? (s : CommandSpec) (name : String) : Option OptionSpec :=
  s.options.find? (·.longs.contains name)

def short? (s : CommandSpec) (c : Char) : Option OptionSpec := s.options.find? (·.short == some c)

end CommandSpec

structure Pending where
  option : OptionSpec
  value : Option String

structure Level where
  spec : CommandSpec
  given : List (String × String) := []
  positionals : List String := []
  pending : Option Pending := none
  awaiting : Bool := false
  trailing : Bool := false

namespace Level

def awaited? (l : Level) : Option OptionSpec :=
  if l.awaiting then l.pending.map (·.option) else none

def takesHyphens (l : Level) : Bool :=
  match l.awaited? with
  | some ⟨_, _, _, .value _ true, _⟩ => true
  | _ => false

def takesNegative (l : Level) : Bool :=
  match l.awaited? with
  | some ⟨_, _, _, .value true _, _⟩ => true
  | _ => false

def give (l : Level) (option : OptionSpec) (value : String) : Except UsageError Level := do
  if (l.given.lookup option.id).isSome then throw .repeated
  option.check value
  return { l with given := l.given ++ [(option.id, value)] }

def resolve (l : Level) : Except UsageError Level :=
  match l.pending with
  | none => .ok { l with awaiting := false }
  | some ⟨_, none⟩ => .error .missingOrUnlistedValue
  | some ⟨option, some value⟩ => { l with pending := none, awaiting := false }.give option value

def takeOption (l : Level) (option : OptionSpec) (attached : Option String) :
    Except UsageError Level := do
  match option.kind with
  | .value _ _ =>
    let l ← l.resolve
    match attached with
    | some value => l.give option value
    | none => return { l with pending := some ⟨option, none⟩, awaiting := true }
  | .flag => (← l.resolve).give option "true"
  | .help => let _ ← l.resolve; throw .help
  | .version => let _ ← l.resolve; throw .version

def splitEquals (cs : List Char) : String × Option String :=
  let name := cs.takeWhile (· != '=')
  match cs.dropWhile (· != '=') with
  | [] => (String.ofList name, none)
  | _ :: value => (String.ofList name, some (String.ofList value))

def takeLong (l : Level) (rest : List Char) : Except UsageError Level :=
  let (name, value) := splitEquals rest
  match l.spec.long? name with
  | none => .error .unknownArgument
  | some option =>
    match option.kind, value with
    | .value _ _, _ => l.takeOption option value
    | _, some _ => .error .needlessValue
    | _, none => l.takeOption option none

def takeShorts (l : Level) : List Char → Except UsageError Level
  | [] => .ok l
  | c :: rest =>
    match l.spec.short? c with
    | none => .error .unknownArgument
    | some option =>
      match option.kind with
      | .value _ _ =>
        match rest with
        | [] => l.takeOption option none
        | '=' :: value => l.takeOption option (some (String.ofList value))
        | value => l.takeOption option (some (String.ofList value))
      | _ => do (← l.takeOption option none).takeShorts rest

def isExponentMark (c : Char) : Bool := c == 'e' || c == 'E'

def isNumber (cs : List Char) : Bool :=
  let (mantissa, exponent) := cs.span (!isExponentMark ·)
  let pointed := match mantissa with
    | [] => exponent.isEmpty
    | c :: rest => c.isDigit && rest.all (fun c => c.isDigit || c == '.') && rest.count '.' ≤ 1
  pointed && match exponent with
    | [] => true
    | _ :: digits => !digits.isEmpty && digits.all Char.isDigit

def takeValue (l : Level) (value : String) : Level :=
  { l with pending := l.pending.map fun p => { p with value := some value }, awaiting := false }

def takePositional (l : Level) (value : String) : Except UsageError Level := do
  if l.positionals.length < l.spec.positionals.length then
    let l ← l.resolve
    return { l with positionals := l.positionals ++ [value] }
  else if l.trailing && l.spec.isSubcommand value then throw .unknownArgument
  else if !l.spec.subcommands.isEmpty then throw .unknownSubcommand
  else throw .unknownArgument

def take (l : Level) (arg : String) : Except UsageError Level :=
  if l.trailing then l.takePositional arg
  else
    let plain := if l.awaiting then .ok (l.takeValue arg) else l.takePositional arg
    if l.takesHyphens then plain
    else match arg.toList with
      | ['-', '-'] => .ok { l with trailing := true }
      | '-' :: '-' :: rest => l.takeLong rest
      | '-' :: c :: rest =>
        if l.takesNegative && isNumber (c :: rest) then plain else l.takeShorts (c :: rest)
      | _ => plain

def finish (hasSubcommand : Bool) (l : Level) : Except UsageError Level := do
  let l ← l.resolve
  if !l.spec.subcommands.isEmpty && !hasSubcommand then
    if l.given.isEmpty then throw .nothingGiven else throw .missingSubcommand
  if l.positionals.length < l.spec.positionals.length then throw .missingArgument
  return l

end Level

def helpOn (s : CommandSpec) : List String → UsageError
  | [] => .help
  | word :: rest =>
    match s.subcommand? word with
    | some sub => helpOn sub rest
    | none => if s.isSubcommand word && rest.isEmpty then .help else .unknownSubcommand

def finishOuter : List Level → Except UsageError (List Level)
  | [] => .ok []
  | l :: outer => do
    let l ← l.finish true
    return l :: (← finishOuter outer)

def scan (l : Level) (outer : List Level) : List String → Except UsageError (List Level)
  | [] => do
    let l ← l.finish false
    return l :: (← finishOuter outer)
  | arg :: rest =>
    if l.trailing || l.awaiting then do scan (← l.take arg) outer rest
    else match l.spec.subcommand? arg with
      | some sub => scan { spec := sub } (l :: outer) rest
      | none =>
        if l.spec.isSubcommand arg then .error (helpOn l.spec rest)
        else do scan (← l.take arg) outer rest

def read (s : CommandSpec) (args : List String) : Except UsageError (List Level) :=
  scan { spec := s } [] args

end Arguments

end LockRegistry
