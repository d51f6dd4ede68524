import LockRegistry.Database.Tables
import LockRegistry.Program
import LockRegistry.Regex.Runner
import Std.Time.DateTime.Timestamp

namespace LockRegistry

namespace Main

def variableNames : List String :=
  ["DATABASE_URL", Setting.maxConnections.name, Setting.pollInterval.name,
    Setting.revokeTimeout.name, "RUST_LOG", "USER", "HOSTNAME", "PGHOST", "PGHOSTADDR", "PGPORT",
    "PGSSLMODE"]

def readEnvironment (names : List String) : BaseIO Environment :=
  names.filterMapM fun name => do return (← IO.getEnv name).map (name, ·)

def readFile? (path : String) : BaseIO (Option String) := do
  match ← (IO.FS.readFile path).toBaseIO with
  | .ok text => return some text
  | .error _ => return none

def now : IO Timestamp := do
  return .ofNanos (← Std.Time.Timestamp.now).toNanosecondsSinceUnixEpoch.val

def randomId : IO String := do
  let bytes ← IO.getRandomBytes 16
  return lockIdOfNat (bytes.toList.foldl (fun n b => 256 * n + b.toNat) 0)

def usageText : String := "Usage: lockkeeper [OPTIONS] <COMMAND>"

def printEnding (e : Ending) : IO Unit := do
  match e with
  | .usage cause => if cause.exitCode = 0 then IO.println usageText else IO.eprintln usageText
  | .ended line _ log =>
    for event in log do
      IO.eprintln (if line.jsonLogs then event.toJson.compact else event.line)
    IO.print e.output
    for line in e.report do
      IO.eprintln line

end Main

end LockRegistry

open LockRegistry in
def main (args : List String) : IO UInt32 := do
  let _ : Regex.Engine := Regex.runner
  let file ← Main.readFile? ".env"
  let named := (file.map EnvironmentFile.names).getD []
  let environment ← Main.readEnvironment (Main.variableNames ++ named)
  let launch : Launch := ⟨args, environment, file, ← Main.randomId⟩
  let (e, _) := launch.run Database.Tables.server { server := {}, start := ← Main.now }
  Main.printEnding e
  return e.exitCode.toUInt32
