import LockRegistry.Command.Line
import LockRegistry.Program.EnvironmentFile
import LockRegistry.Program.LogFilter
import LockRegistry.Program.Report

namespace LockRegistry

open Database

structure Launch where
  args : List String
  environment : Environment
  file : Option String := none
  freshId : String

inductive Ending where
  | usage (cause : UsageError)
  | ended (line : CommandLine) (result : Except ErrorChain Answer) (log : List LogEvent)

namespace Launch

variable [Regex.Engine] {σ : Type}

def fullEnvironment (l : Launch) : Environment :=
  l.file.elim l.environment (EnvironmentFile.load l.environment)

def programEvent (message : String) (fields : List (String × LogValue)) : LogEvent where
  level := .debug
  source := .program
  message := message
  fields := fields

def settingsEvent (database : DatabaseConfig) (config : LockConfig) : LogEvent :=
  programEvent "Loaded configuration"
    [("max_connections", .int database.maxConnections),
      ("poll_interval_ms", .int config.pollIntervalMs),
      ("default_revoke_timeout_secs", .int config.defaultRevokeTimeoutSecs)]

def connectedEvent : LogEvent := programEvent "Database connection pool created" []

def connect (s : Server σ) (c : Client σ) (env : Environment) (config : DatabaseConfig) :
    Except ErrorChain Unit × Client σ :=
  match config.url with
  | none => (.error ["DATABASE_URL must be set"], c)
  | some url =>
    match c.connect s env url config.maxConnections with
    | (.error e, c) => (.error ("Failed to connect to database" :: e.chain), c)
    | (.ok (), c) =>
      match c.health s with
      | (.error e, c) => (.error ("Database health check failed" :: e.chain), c)
      | (.ok (), c) => (.ok (), c.say connectedEvent)

def carryOut (s : Server σ) (l : Launch) (line : CommandLine) (c : Client σ) :
    Except ErrorChain Answer × Client σ :=
  let environment := l.fullEnvironment
  let (database, reports) := DatabaseConfig.ofEnvironment environment
  let (config, reports') := LockConfig.ofEnvironment environment
  let c := (reports ++ reports' ++ [settingsEvent database config]).foldl Client.say c
  match connect s c environment database with
  | (.error chain, c) => (.error chain, c)
  | (.ok (), c) =>
    (Plan.ofCommand ⟨line.user, line.format, config, environment, l.freshId⟩ line.command).perform s
      line.format c

def logFilter (l : Launch) : LogFilter := .ofSetting (l.fullEnvironment.get? "RUST_LOG")

def run (s : Server σ) (l : Launch) (c : Client σ) : Ending × Client σ :=
  match CommandLine.parse l.args with
  | .error cause => (.usage cause, c)
  | .ok line =>
    let (result, c) := l.carryOut s line c
    (.ended line result (c.log.toList.filter l.logFilter.allows), c)

end Launch

namespace Ending

def exitCode : Ending → Nat
  | usage cause => cause.exitCode
  | ended _ (.ok answer) _ => answer.exitCode
  | ended _ (.error _) _ => 1

def output : Ending → String
  | ended _ (.ok answer) _ => answer.output
  | _ => ""

def report : Ending → List String
  | ended _ (.error chain) _ => chain.report
  | _ => []

end Ending

end LockRegistry
