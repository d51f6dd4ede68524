import LockRegistry.Error
import LockRegistry.Lock
import LockRegistry.Log
import LockRegistry.Text.Numeral

namespace LockRegistry

abbrev Environment := List (String × String)

def Environment.get? (env : Environment) (name : String) : Option String := env.lookup name

structure Setting where
  name : String
  range : Text.IntRange
  fallback : Int

namespace Setting

def pollInterval : Setting := ⟨"LOCK_REVOKE_POLL_INTERVAL_MS", .unsigned64, 250⟩

def revokeTimeout : Setting :=
  ⟨"LOCK_DEFAULT_REVOKE_TIMEOUT_SECS", .signed64, defaultRevokeTimeoutSecs⟩

def maxConnections : Setting := ⟨"DB_MAX_CONNECTIONS", .unsigned32, 20⟩

def invalid (s : Setting) (raw : String) : LogEvent where
  level := .warn
  source := .config
  message := "Invalid value, using default"
  fields :=
    [("var", .text s.name), ("value", .text raw), ("fallback", .shown (toString s.fallback))]

def read (s : Setting) (env : Environment) : Int × List LogEvent :=
  match env.get? s.name with
  | none => (s.fallback, [])
  | some raw =>
    match Text.integer? s.range (Text.trim raw) with
    | some n => (n, [])
    | none => (s.fallback, [s.invalid raw])

end Setting

def minPollMs : Nat := 10

def maxPollMs : Nat := 1000

def clampPollMs (ms : Nat) : Nat := max minPollMs (min ms maxPollMs)

structure LockConfig where
  pollIntervalMs : Nat
  defaultRevokeTimeoutSecs : Int
deriving DecidableEq, Repr

namespace LockConfig

def clamped (pollMs : Nat) (timeoutSecs : Int) : LockConfig :=
  ⟨clampPollMs pollMs, max timeoutSecs 0⟩

def standard : LockConfig :=
  clamped Setting.pollInterval.fallback.toNat Setting.revokeTimeout.fallback

instance : Inhabited LockConfig := ⟨standard⟩

def ofEnvironment (env : Environment) : LockConfig × List LogEvent :=
  let (pollMs, reports) := Setting.pollInterval.read env
  let (timeout, reports') := Setting.revokeTimeout.read env
  (clamped pollMs.toNat timeout, reports ++ reports')

def toJson (c : LockConfig) : Json :=
  .obj [("poll_interval_ms", .int c.pollIntervalMs),
    ("default_revoke_timeout_secs", .int c.defaultRevokeTimeoutSecs)]

theorem pollIntervalMs_clamped (pollMs : Nat) (timeoutSecs : Int) :
    minPollMs ≤ (clamped pollMs timeoutSecs).pollIntervalMs ∧
      (clamped pollMs timeoutSecs).pollIntervalMs ≤ maxPollMs := by
  simp only [clamped, clampPollMs, minPollMs, maxPollMs]
  omega

end LockConfig

structure DatabaseConfig where
  url : Option String
  maxConnections : Int
deriving DecidableEq, Repr

def DatabaseConfig.ofEnvironment (env : Environment) : DatabaseConfig × List LogEvent :=
  let (maxConnections, reports) := Setting.maxConnections.read env
  (⟨env.get? "DATABASE_URL", maxConnections⟩, reports)

end LockRegistry
