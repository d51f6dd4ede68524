import LockRegistry.Database.Script
import LockRegistry.Json.Decode
import LockRegistry.Json.Reader
import LockRegistry.Main
import LockRegistry.Scenario.Run
import LockRegistry.Proofs.Op.Traces
import LockRegistry.Proofs.Op.Rounds
import LockRegistry.Proofs.Op.Polls
import LockRegistry.Proofs.Sessions
import LockRegistry.Proofs.Operation
import LockRegistry.Proofs.Store.Rows
import LockRegistry.Proofs.Authority.Courses
import LockRegistry.Proofs.Locking.Courses
import LockRegistry.Proofs.Operation.Calls
import LockRegistry.Proofs.Locking.Tenure
import LockRegistry.Proofs.Locking.Exclusion
import LockRegistry.Proofs.Text.Blank
import LockRegistry.Proofs.Text.Case
import LockRegistry.Proofs.Grant
import LockRegistry.Proofs.Authority.Exact
import LockRegistry.Proofs.Locking.Gate
import LockRegistry.Proofs.Locking.TimedOut
import LockRegistry.Proofs.Mask.Pieces
import LockRegistry.Proofs.Database.Like
import LockRegistry.Proofs.Locking.Origin
import LockRegistry.Proofs.Store.Effects
import LockRegistry.Proofs.Locking.Footprint
import LockRegistry.Proofs.Locking.DeadIds
import LockRegistry.Proofs.Locking.Readmission
import LockRegistry.Proofs.Store.Kept
import LockRegistry.Proofs.Sessions.Kept
import LockRegistry.Proofs.Locking.Waiting
import LockRegistry.Proofs.Locking.Contention
import LockRegistry.Proofs.Locking.Pending
import LockRegistry.Proofs.Store.Values
import LockRegistry.Proofs.Authority.Ledger
import LockRegistry.Proofs.Authority.Changes
import LockRegistry.Proofs.Authority.Dealings
import LockRegistry.Proofs.Locking.Denied
import LockRegistry.Proofs.Database.Rows
import LockRegistry.Proofs.Database.Answers
import LockRegistry.Proofs.Database.Steps
import LockRegistry.Proofs.Database.Refinement
import LockRegistry.Proofs.Sessions.Alone
import LockRegistry.Proofs.Operation.Failures
import LockRegistry.Proofs.Database.Sendings
import LockRegistry.Proofs.Database.Faults
import LockRegistry.Proofs.Operation.Refusals
import LockRegistry.Proofs.Authority.Verdicts
import LockRegistry.Proofs.Operation.Isolation
import LockRegistry.Proofs.Store.Bare
import LockRegistry.Proofs.Op.Mirrors
import LockRegistry.Proofs.Sessions.Bare
import LockRegistry.Proofs.Database.Dialogue
import LockRegistry.Proofs.Op.Schedule
import LockRegistry.Proofs.Locking.Schedule
import LockRegistry.Proofs.Sessions.Calm
import LockRegistry.Proofs.Locking.Cancellation
import LockRegistry.Proofs.Text.CaseFold
import LockRegistry.Proofs.Mask.Recased
import LockRegistry.Proofs.Authority.Reselection
import LockRegistry.Proofs.Mask.Kept
import LockRegistry.Proofs.Locking.Catalog
import LockRegistry.Proofs.Json.Texts
import LockRegistry.Proofs.Json.Records
import LockRegistry.Proofs.Mask.Canonical
import LockRegistry.Proofs.Operation.Onward
import LockRegistry.Proofs.Authority.DefaultMask
import LockRegistry.Proofs.Text.Numeral
import LockRegistry.Proofs.Config
import LockRegistry.Proofs.Time.Reading
import LockRegistry.Proofs.Command.Truthful
import LockRegistry.Proofs.Op.Underway
import LockRegistry.Proofs.Op.Reckoning
import LockRegistry.Proofs.Locking.Reckoning
import LockRegistry.Proofs.Text.Split
import LockRegistry.Proofs.Command.Listings
import LockRegistry.Proofs.Scenario.Scenes
