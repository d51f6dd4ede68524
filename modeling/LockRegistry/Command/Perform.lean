import LockRegistry.Command.Plan
import LockRegistry.Database.Server

namespace LockRegistry

open Database

abbrev ErrorChain := List String

namespace Plan

variable [Regex.Engine] {σ : Type}

def migratedEvent : LogEvent where
  level := .info
  source := .commands
  message := "Database migrations applied"

def perform (s : Server σ) (format : OutputFormat) (c : Client σ) :
    Plan → Except ErrorChain Answer × Client σ
  | refuse context cause => (.error [context, cause.message], c)
  | migrate =>
    match c.migrate s with
    | (.ok (), c) => (.ok (.migrated format), c.say migratedEvent)
    | (.error e, c) => (.error ("Failed to run database migrations" :: e.chain), c)
  | operate op _ =>
    let (result, c) := c.perform s op
    (result.mapError (·.chain), c)

end Plan

end LockRegistry
