import LockRegistry.Config
import LockRegistry.Net.Url

namespace LockRegistry.Database

inductive Encryption where
  | never
  | allowed
  | preferred
  | required
deriving DecidableEq, Repr

namespace Encryption

def modes : List (String × Encryption) :=
  [("disable", never), ("allow", allowed), ("prefer", preferred), ("require", required),
    ("verify-ca", required), ("verify-full", required)]

def ofText? (text : String) : Option Encryption := modes.lookup (text.map Char.toLower)

end Encryption

structure ConnectOptions where
  directory : Option String := none
  host : String := "localhost"
  service : Nat := 5432
  encryption : Encryption := .preferred
deriving DecidableEq, Repr

namespace ConnectOptions

def serviceRange : Text.IntRange := ⟨0, 0xFFFF⟩

def ofEnvironment (env : Environment) : ConnectOptions where
  host := (env.get? "PGHOSTADDR" <|> env.get? "PGHOST").getD "localhost"
  service := (((env.get? "PGPORT").bind (Text.integer? serviceRange)).getD 5432).toNat
  encryption := ((env.get? "PGSSLMODE").bind Encryption.ofText?).getD .preferred

def natural (greatest : Nat) (text : String) : Except DatabaseError Nat :=
  (Text.naturalUpTo greatest text.toList).mapError fun e => .configuration e.message

def decode (part : List Char) : Except DatabaseError String :=
  (Url.decode part).mapError fun e => .configuration e.message

def isPath (host : String) : Bool := host.toList.head? == some '/'

def atHost (o : ConnectOptions) (host : String) : ConnectOptions :=
  if isPath host then { o with directory := some host } else { o with host := host }

def directory? (o : ConnectOptions) : Option String :=
  o.directory <|> if isPath o.host then some o.host else none

def ignored (name value : String) : LogEvent where
  level := .warn
  source := .connecting
  message := "ignoring unrecognized connect parameter"
  fields := [("key", .shown name), ("value", .shown value)]

-- These make no difference to whether a connection is made.
def silentNames : List String :=
  ["sslrootcert", "ssl-root-cert", "ssl-ca", "sslcert", "ssl-cert", "sslkey", "ssl-key", "dbname",
    "user", "password", "application_name", "options"]

def take? (o : ConnectOptions) (name value : String) :
    Option (Except DatabaseError ConnectOptions) :=
  match name with
  | "sslmode" | "ssl-mode" => some <|
    match Encryption.ofText? value with
    | some e => .ok { o with encryption := e }
    | none => .error (.unknownEncryption value)
  | "statement-cache-capacity" => some ((natural 0xFFFFFFFFFFFFFFFF value).map fun _ => o)
  | "host" => some (.ok (o.atHost value))
  | "hostaddr" => some <|
    if IpAddress.isAddress value.toList then .ok { o with host := value }
    else .error (.configuration "invalid IP address syntax")
  | "port" => some ((natural 0xFFFF value).map fun n => { o with service := n })
  | name =>
    if silentNames.contains name || "options[".toList.isPrefixOf name.toList then some (.ok o)
    else none

def takeAll (o : ConnectOptions) :
    List (String × String) → List LogEvent × Except DatabaseError ConnectOptions
  | [] => ([], .ok o)
  | (name, value) :: rest =>
    match o.take? name value with
    | some (.ok o) => o.takeAll rest
    | some (.error e) => ([], .error e)
    | none =>
      let (events, result) := o.takeAll rest
      (ignored name value :: events, result)

def atUrl (o : ConnectOptions) (url : Url) : Except DatabaseError ConnectOptions := do
  let o ←
    if url.host.isEmpty then pure o
    else if (Url.bytes url.host).head? = some '/'.toUInt8 then (decode url.host).map o.atHost
    else pure (o.atHost (String.ofList url.host))
  let _ ← [url.user, url.password, url.path].mapM decode
  return { o with service := url.service.getD o.service }

def ofUrl (env : Environment) (text : String) :
    List LogEvent × Except DatabaseError ConnectOptions :=
  let start : Except DatabaseError (Url × ConnectOptions) := do
    let url ← (Url.ofText text).mapError fun e => .configuration e.message
    return (url, ← (ofEnvironment env).atUrl url)
  match start with
  | .error e => ([], .error e)
  | .ok (url, o) => o.takeAll url.parameters

def pathLimit : Nat := 108

def socketPath (o : ConnectOptions) (directory : String) : Except DatabaseError String :=
  let path := s!"{directory}/.s.PGSQL.{o.service}"
  if path.toList.contains '\x00' then
    .error (.communication "paths must not contain interior null bytes")
  else if pathLimit ≤ path.utf8ByteSize then
    .error (.communication "path must be shorter than SUN_LEN")
  else .ok path

end ConnectOptions

end LockRegistry.Database
