import LockRegistry.Json
import LockRegistry.Text.Quoted

namespace LockRegistry

inductive LogLevel where
  | error
  | warn
  | info
  | debug
  | trace
deriving DecidableEq, Repr

namespace LogLevel

def text : LogLevel → String
  | error => "ERROR"
  | warn => "WARN"
  | info => "INFO"
  | debug => "DEBUG"
  | trace => "TRACE"

def verbosity : LogLevel → Nat
  | error => 1
  | warn => 2
  | info => 3
  | debug => 4
  | trace => 5

end LogLevel

inductive LogSource where
  | program
  | commands
  | manager
  | rights
  | wait
  | config
  | connecting
deriving DecidableEq, Repr

def LogSource.target : LogSource → String
  | program => "lockkeeper"
  | commands => "lockkeeper::commands"
  | manager => "lockkeeper_service::manager"
  | rights => "lockkeeper_service::rights"
  | wait => "lockkeeper_service::wait"
  | config => "lockkeeper_service::config"
  | connecting => "sqlx_postgres::options::parse"

inductive LogValue where
  | int (n : Int)
  | bool (b : Bool)
  | shown (s : String)
  | optional (s : Option String)
  | text (s : String)
deriving DecidableEq, Repr

namespace LogValue

def optionalText : Option String → String
  | none => "None"
  | some s => "Some(" ++ Text.quote s ++ ")"

def line : LogValue → String
  | int n => toString n
  | bool b => if b then "true" else "false"
  | shown s => s
  | optional s => optionalText s
  | text s => Text.quote s

def toJson : LogValue → Json
  | int n => .int n
  | bool b => .bool b
  | shown s => .str s
  | optional s => .str (optionalText s)
  | text s => .str s

end LogValue

structure LogEvent where
  level : LogLevel
  source : LogSource
  message : String
  fields : List (String × LogValue) := []
deriving DecidableEq, Repr

namespace LogEvent

def fieldNames (e : LogEvent) : List String := "message" :: e.fields.map (·.1)

def line (e : LogEvent) : String :=
  let fields := e.fields.map fun f => " " ++ f.1 ++ "=" ++ f.2.line
  s!"{e.level.text} {e.source.target}: {e.message}" ++ String.join fields

def fieldsJson (e : LogEvent) : Json := .obj (e.fields.map fun f => (f.1, f.2.toJson))

def toJson (e : LogEvent) : Json :=
  .obj [("level", .str e.level.text),
    ("fields", .obj (("message", .str e.message) :: e.fields.map fun f => (f.1, f.2.toJson))),
    ("target", .str e.source.target)]

def record (e : LogEvent) : Json := .arr [.str e.level.text, .str e.message, e.fieldsJson]

end LogEvent

end LockRegistry
