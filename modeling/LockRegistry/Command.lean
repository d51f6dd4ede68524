import LockRegistry.Time.Zone

namespace LockRegistry

structure RawKey where
  office : String
  project : String
  application : String
deriving DecidableEq, Repr

structure RawFilter where
  project : Option String := none
  application : Option String := none
  office : Option String := none
deriving DecidableEq, Repr

inductive RightsCommand where
  | allow (office grantee : String) (officeMask : Option String)
    (projectMask applicationMask : String)
  | update (office grantee : String) (officeMask : Option String)
    (projectMask applicationMask : String) (allowed : Bool)
  | removeAll (office grantee : String) (officeMask applicationMask : Option String)
  | check (key : RawKey) (grantee : String)
  | list (filter : RawFilter)
deriving DecidableEq, Repr

inductive Command where
  | migrate
  | acquire (key : RawKey) (revoke : Bool) (timeout : Option Int)
  | release (office lockId : String)
  | revoke (key : RawKey)
  | status (key : RawKey)
  | locks (filter : RawFilter) (zone : Zone)
  | lockInfo (office lockId : String)
  | rights (action : RightsCommand)
deriving DecidableEq, Repr

inductive OutputFormat where
  | text
  | json
deriving DecidableEq, Repr

structure CommandLine where
  command : Command
  format : OutputFormat := .text
  jsonLogs : Bool := false
  user : Option String := none
deriving DecidableEq, Repr

inductive UsageError where
  | help
  | version
  | nothingGiven
  | missingSubcommand
  | unknownSubcommand
  | unknownArgument
  | missingArgument
  | missingOrUnlistedValue
  | repeated
  | needlessValue
  | unreadableValue
deriving DecidableEq, Repr

def UsageError.exitCode : UsageError → Nat
  | .help => 0
  | .version => 0
  | _ => 2

end LockRegistry
