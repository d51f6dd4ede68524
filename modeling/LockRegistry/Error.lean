import LockRegistry.Text.Quoted

namespace LockRegistry

inductive ArgumentError where
  | blank (field : String)
  | wildcard (field value : String)
  | tooLong (field : String) (limit length : Nat)
  | maskRefused (pattern reason : String)
  | blankLockId
  | negativeTimeout (seconds : Int)
  | stated (reason : String)
deriving DecidableEq, Repr

def ArgumentError.reason : ArgumentError → String
  | .blank field => s!"{field} must not be empty"
  | .wildcard field value => s!"{field} must not contain wildcards, got '{value}'"
  | .tooLong field limit length => s!"{field} must be at most {limit} characters, got {length}"
  | .maskRefused pattern reason => s!"invalid mask '{pattern}': {reason}"
  | .blankLockId => "lock_id must not be empty"
  | .negativeTimeout seconds => s!"revoke_timeout_secs must be >= 0, got {seconds}"
  | .stated reason => reason

def ArgumentError.message (e : ArgumentError) : String := "Invalid argument: " ++ e.reason

inductive ColumnRef where
  | named (name : String)
  | place (index : Nat)
deriving DecidableEq, Repr

def ColumnRef.text : ColumnRef → String
  | .named name => Text.quote name
  | .place index => toString index

inductive DatabaseError where
  | noRow
  | poolTimedOut
  | poolClosed
  | workerCrashed
  | protocol (text : String)
  | refused (text : String)
  | communication (text : String)
  | configuration (text : String)
  | unknownEncryption (name : String)
  | noEncryption
  | missingColumn (name : String)
  | missingPlace (index count : Nat)
  | unexpectedNull (column : ColumnRef)
  | mismatchedType (column : ColumnRef) (valueType expected found : String)
  | undecodable (column : ColumnRef) (reason : String)
deriving DecidableEq, Repr

def unexpectedNullText : String := "unexpected null; try decoding as an `Option`"

def mismatchText (valueType expected found : String) : String :=
  s!"mismatched types; Rust type `{valueType}` (as SQL type `{expected}`) is not compatible " ++
    s!"with SQL type `{found}`"

def decodingText (column : ColumnRef) (reason : String) : String :=
  s!"error occurred while decoding column {column.text}: " ++ reason

def configurationText (text : String) : String := "error with configuration: " ++ text

def unknownEncryptionText (name : String) : String :=
  s!"unknown value {Text.quote name} for `ssl_mode`"

def noEncryptionText : String := "server does not support TLS"

def DatabaseError.message : DatabaseError → String
  | .noRow => "no rows returned by a query that expected to return at least one row"
  | .poolTimedOut => "pool timed out while waiting for an open connection"
  | .poolClosed => "attempted to acquire a connection on a closed pool"
  | .workerCrashed => "attempted to communicate with a crashed background worker"
  | .protocol text => "encountered unexpected or invalid data: " ++ text
  | .refused text => "error returned from database: " ++ text
  | .communication text => "error communicating with database: " ++ text
  | .configuration text => configurationText text
  | .unknownEncryption name => configurationText (configurationText (unknownEncryptionText name))
  | .noEncryption =>
    "error occurred while attempting to establish a TLS connection: " ++ noEncryptionText
  | .missingColumn name => "no column found for name: " ++ name
  | .missingPlace index count =>
    s!"column index out of bounds: the len is {count}, but the index is {index}"
  | .unexpectedNull column => decodingText column unexpectedNullText
  | .mismatchedType column valueType expected found =>
    decodingText column (mismatchText valueType expected found)
  | .undecodable column reason => decodingText column reason

def DatabaseError.chain (e : DatabaseError) : List String :=
  e.message :: match e with
    | .refused text => [text]
    | .communication text => [text]
    | .configuration text => [text]
    | .unknownEncryption name =>
      [configurationText (unknownEncryptionText name), unknownEncryptionText name]
    | .noEncryption => [noEncryptionText]
    | .unexpectedNull _ => [unexpectedNullText]
    | .mismatchedType _ valueType expected found => [mismatchText valueType expected found]
    | .undecodable _ reason => [reason]
    | _ => []

inductive LockError where
  | argument (cause : ArgumentError)
  | revokeDenied (user key : String)
  | database (cause : DatabaseError)
  | cancelled
deriving DecidableEq, Repr

def LockError.message : LockError → String
  | .argument cause => cause.message
  | .revokeDenied user key => s!"User {user} may not revoke the lock on {key}"
  | .database cause => "Database error: " ++ cause.message
  | .cancelled => "Operation cancelled"

def LockError.chain (e : LockError) : List String :=
  e.message :: match e with
    | .database cause => cause.chain
    | _ => []

end LockRegistry
