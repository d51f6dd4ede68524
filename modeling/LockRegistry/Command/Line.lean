import LockRegistry.Command.Arguments
import LockRegistry.Config

namespace LockRegistry

namespace CommandLine

open Arguments

def oneOf (values : List String) (value : String) : Except UsageError Unit :=
  if values.contains value then .ok () else .error .missingOrUnlistedValue

def timeout? (value : String) : Option Int := Text.integer? .signed64 value

def readable {α : Type} (read : String → Option α) (value : String) : Except UsageError Unit :=
  if (read value).isSome then .ok () else .error .unreadableValue

def zone? (value : String) : Option Zone := (Zone.parse value).toOption

def globalOptions : List OptionSpec :=
  [{ id := "format", check := oneOf ["text", "json"] },
    { id := "json-logs", kind := .flag },
    { id := "user", short := some 'u' },
    { id := "help", short := some 'h', kind := .help }]

def versionOption : OptionSpec := { id := "version", short := some 'V', kind := .version }

def timeoutOption : OptionSpec :=
  { id := "timeout", kind := .value true false, check := readable timeout? }

def zoneOption : OptionSpec :=
  { id := "time-zone", longs := ["time-zone", "utc-offset"], kind := .value false true,
    check := readable zone? }

def allowOption : OptionSpec := { id := "allow", check := oneOf ["true", "false"] }

def textOption (id : String) : OptionSpec := { id := id }

def filterOptions : List OptionSpec := ["project", "application", "office"].map textOption

def keyWords : List String := ["office", "project", "application"]

def leaf (name : String) (positionals : List String) (options : List OptionSpec) : CommandSpec :=
  .mk name (options ++ globalOptions) positionals []

def rightsSpec : CommandSpec :=
  .mk "rights" globalOptions []
    [leaf "allow" ["office", "grantee"]
        (["office-mask", "project-mask", "application-mask"].map textOption),
      leaf "update" ["office", "grantee"]
        (allowOption :: ["project-mask", "application-mask", "office-mask"].map textOption),
      leaf "remove-all" ["office", "grantee"] (["office-mask", "application-mask"].map textOption),
      leaf "check" (keyWords ++ ["grantee"]) [],
      leaf "list" [] filterOptions]

def spec : CommandSpec :=
  .mk "lockkeeper" (globalOptions ++ [versionOption]) []
    [leaf "migrate" [] [],
      leaf "acquire" keyWords [{ id := "revoke", kind := .flag }, timeoutOption],
      leaf "release" ["office", "lock_id"] [],
      leaf "revoke" keyWords [],
      leaf "status" keyWords [],
      leaf "locks" [] (filterOptions ++ [zoneOption]),
      leaf "lock-info" ["office", "lock_id"] [],
      rightsSpec]

def defaultMask : String := "*"

def filterOf (given : List (String × String)) : RawFilter where
  project := given.lookup "project"
  application := given.lookup "application"
  office := given.lookup "office"

def rightsCommand? (l : Level) : Option RightsCommand :=
  let mask (name : String) : String := (l.given.lookup name).getD defaultMask
  match l.spec.name, l.positionals with
  | "allow", [office, grantee] =>
    some (.allow office grantee (l.given.lookup "office-mask") (mask "project-mask")
      (mask "application-mask"))
  | "update", [office, grantee] =>
    some (.update office grantee (l.given.lookup "office-mask") (mask "project-mask")
      (mask "application-mask") (l.given.lookup "allow" != some "false"))
  | "remove-all", [office, grantee] =>
    some (.removeAll office grantee (l.given.lookup "office-mask")
      (l.given.lookup "application-mask"))
  | "check", [office, project, application, grantee] =>
    some (.check ⟨office, project, application⟩ grantee)
  | "list", [] => some (.list (filterOf l.given))
  | _, _ => none

def command? (l : Level) : Option Command :=
  match l.spec.name, l.positionals with
  | "migrate", [] => some .migrate
  | "acquire", [office, project, application] =>
    some (.acquire ⟨office, project, application⟩ (l.given.lookup "revoke").isSome
      ((l.given.lookup "timeout").bind timeout?))
  | "release", [office, lockId] => some (.release office lockId)
  | "revoke", [office, project, application] => some (.revoke ⟨office, project, application⟩)
  | "status", [office, project, application] => some (.status ⟨office, project, application⟩)
  | "locks", [] =>
    some (.locks (filterOf l.given) (((l.given.lookup "time-zone").bind zone?).getD .utc))
  | "lock-info", [office, lockId] => some (.lockInfo office lockId)
  | _, _ => none

def global? (levels : List Level) (id : String) : Option String :=
  levels.findSome? (·.given.lookup id)

def ofLevels (levels : List Level) : Except UsageError CommandLine :=
  let command := match levels with
    | [l, ⟨.mk "rights" _ _ _, _, _, _, _, _⟩, _] => (rightsCommand? l).map .rights
    | [l, _] => command? l
    | _ => none
  match command with
  | none => .error .missingSubcommand
  | some command => .ok {
      command := command
      format := if global? levels "format" = some "json" then .json else .text
      jsonLogs := (global? levels "json-logs").isSome
      user := global? levels "user" }

def parse (args : List String) : Except UsageError CommandLine := read spec args >>= ofLevels

end CommandLine

end LockRegistry
