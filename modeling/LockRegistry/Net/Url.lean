import LockRegistry.Net.IpAddress
import LockRegistry.Text.Utf8

namespace LockRegistry

inductive UrlError where
  | relative
  | emptyHost
  | invalidService
  | invalidAddress
  | invalidDomain
  | invalidName
deriving DecidableEq, Repr

def UrlError.message : UrlError → String
  | relative => "relative URL without a base"
  | emptyHost => "empty host"
  | invalidService => "invalid port number"
  | invalidAddress => "invalid IPv6 address"
  | invalidDomain => "invalid domain character"
  | invalidName => "invalid international domain name"

structure Url where
  user : List Char := []
  password : List Char := []
  host : List Char := []
  service : Option Nat := none
  path : List Char := []
  query : List Char := []
deriving DecidableEq, Repr

namespace Url

def clean (text : List Char) : List Char :=
  let outer (cs : List Char) := (cs.dropWhile (· ≤ ' ')).reverse
  (outer (outer text)).filter fun c => c ≠ '\t' ∧ c ≠ '\n' ∧ c ≠ '\r'

def isSchemeChar (c : Char) : Bool := c.isAlphanum || c == '+' || c == '-' || c == '.'

def scheme? (text : List Char) : Option (String × List Char) :=
  match text, text.span isSchemeChar with
  | c :: _, (scheme, ':' :: rest) =>
    if c.isAlpha then some (String.ofList (scheme.map Char.toLower), rest) else none
  | _, _ => none

def hostSchemes : List (String × Option Nat) :=
  [("http", some 80), ("https", some 443), ("ws", some 80), ("wss", some 443), ("ftp", some 21)]

def isEnd (special : Bool) (c : Char) : Bool :=
  c == '/' || c == '?' || c == '#' || (special && c == '\\')

def splitHost (inside : Bool) : List Char → List Char × List Char
  | [] => ([], [])
  | c :: rest =>
    if c = ':' ∧ !inside then ([], c :: rest)
    else
      let inside := if c = '[' then true else if c = ']' then false else inside
      let (host, rest) := splitHost inside rest
      (c :: host, rest)

def isForbidden (special : Bool) (c : Char) : Bool :=
  c ∈ ['\x00', ' ', '#', '/', ':', '<', '>', '?', '@', '[', '\\', ']', '^', '|'] ||
    (special && (c < ' ' || c = '\x7f' || c = '%'))

def checkHost (special : Bool) (host : List Char) : Except UrlError Unit :=
  if special && host.isEmpty then .error .emptyHost
  else match host with
    | '[' :: inner =>
      if inner.getLast? = some ']' ∧ IpAddress.isVersion6 inner.dropLast then .ok ()
      else .error .invalidAddress
    | _ =>
      if !host.any (isForbidden special) then .ok ()
      else .error (if special then .invalidName else .invalidDomain)

def readService (text : List Char) : Except UrlError (Option Nat) :=
  let (digits, rest) := text.span Char.isDigit
  let service := Text.digitsValue digits
  if 0xFFFF < service ∨ rest.head?.any (· ≠ '\\') then .error .invalidService
  else .ok (if digits.isEmpty then none else some service)

def splitUser (text : List Char) : Option (List Char) × List Char :=
  match text.reverse.span (· ≠ '@') with
  | (_, []) => (none, text)
  | (host, _ :: user) => (some user.reverse, host.reverse)

def readAuthority (scheme : String) (text : List Char) (more : Bool) : Except UrlError Url := do
  let special := hostSchemes.lookup scheme
  let (user, text) := splitUser text
  if user = some [] ∧ text.isEmpty ∧ more then throw .emptyHost
  let (host, rest) := splitHost false text
  checkHost special.isSome host
  if host.isEmpty ∧ !rest.isEmpty then throw .emptyHost
  let service ← readService (rest.drop 1)
  if host.isEmpty ∧ user.any (fun u => u ≠ [] ∧ u ≠ [':']) then throw .emptyHost
  let (user, password) := Text.divide ':' (user.getD [])
  return { user := user, password := password, host := host
           service := if service = special.join then none else service }

def withRest (u : Url) (text : List Char) : Url :=
  let (path, query) := Text.divide '?' (Text.divide '#' text).1
  { u with path := path, query := query }

def readHost (scheme : String) (text : List Char) : Except UrlError Url := do
  let (authority, rest) := text.span (!isEnd (hostSchemes.lookup scheme).isSome ·)
  return (← readAuthority scheme authority (!rest.isEmpty)).withRest rest

def ofText (text : String) : Except UrlError Url :=
  match scheme? (clean text.toList) with
  | none => .error .relative
  | some ("file", rest) => .ok (withRest {} rest)
  | some (scheme, rest) =>
    if (hostSchemes.lookup scheme).isSome then
      readHost scheme (rest.dropWhile fun c => c = '/' ∨ c = '\\')
    else match rest with
      | '/' :: '/' :: rest => readHost scheme rest
      | rest => .ok (withRest {} rest)

def bytes : List Char → List UInt8
  | '%' :: a :: b :: rest =>
    match Text.hexValue? a, Text.hexValue? b with
    | some high, some low => (16 * high + low).toUInt8 :: bytes rest
    | _, _ => '%'.toUInt8 :: bytes (a :: b :: rest)
  | c :: rest => String.utf8EncodeChar c ++ bytes rest
  | [] => []

def decode (part : List Char) : Except Text.Utf8Error String := Text.ofUtf8 (bytes part)

def queryText (part : List Char) : String :=
  Text.ofUtf8Lossy (bytes (part.map fun c => if c = '+' then ' ' else c))

def parameters (u : Url) : List (String × String) :=
  ((Text.parts '&' u.query).filter (!·.isEmpty)).map fun p =>
    let (name, value) := Text.divide '=' p
    (queryText name, queryText value)

end Url

end LockRegistry
