import ControllerManager.Environment
import ControllerManager.Log.Format
import ControllerManager.Text.Terminal

/-!
# Flags

The flags of the command line: their names, their descriptions, and where their values come from if
they are not given.

## Main definitions

* `Config.Flag` — a flag.
* `Config.Flag.usage` — a flag as messages show it.
* `Config.helpText` — the description of all flags.
-/

namespace ControllerManager.Config

/-- A flag of the command line. -/
inductive Flag where
  | apiExportName
  | metricsBindAddress
  | healthProbeBindAddress
  | leaderElect
  | leaderElectionNamespace
  | webhookCertDir
  | gracefulShutdownTimeout
  | defaultReleasePvc
  | defaultReleaseWorkspaceName
  | logFormat
  deriving Repr, DecidableEq

namespace Flag

/-- All flags in the order in which they are listed. -/
def all : List Flag :=
  [.apiExportName, .metricsBindAddress, .healthProbeBindAddress, .leaderElect,
   .leaderElectionNamespace, .webhookCertDir, .gracefulShutdownTimeout, .defaultReleasePvc,
   .defaultReleaseWorkspaceName, .logFormat]

/-- The name of a flag. -/
def name : Flag → String
  | .apiExportName => "api-export-name"
  | .metricsBindAddress => "metrics-bind-address"
  | .healthProbeBindAddress => "health-probe-bind-address"
  | .leaderElect => "leader-elect"
  | .leaderElectionNamespace => "leader-election-namespace"
  | .webhookCertDir => "webhook-cert-dir"
  | .gracefulShutdownTimeout => "graceful-shutdown-timeout"
  | .defaultReleasePvc => "default-release-pvc"
  | .defaultReleaseWorkspaceName => "default-release-workspace-name"
  | .logFormat => "log-format"

/-- The flag of that name. -/
def ofName? (name : String) : Option Flag := all.find? (·.name == name)

/-- What a flag is for. -/
def description : Flag → String
  | .apiExportName => "The name of the APIExport"
  | .metricsBindAddress => "The address the metric endpoint binds to"
  | .healthProbeBindAddress => "The address the probe endpoint binds to"
  | .leaderElect =>
    "Enable leader election for controller manager. Enabling this will ensure there is only one " ++
      "active controller manager"
  | .leaderElectionNamespace => "Namespace holding the leader election lease"
  | .webhookCertDir => "Directory containing tls.crt and tls.key for the webhook server"
  | .gracefulShutdownTimeout => "Seconds to wait for controllers to drain on shutdown"
  | .defaultReleasePvc =>
    "Explicit value for DEFAULT_RELEASE_PVC, takes precedence over the environment"
  | .defaultReleaseWorkspaceName =>
    "Explicit value for DEFAULT_RELEASE_WORKSPACE_NAME, takes precedence over the environment"
  | .logFormat => "Log output format"

/-- The value of a flag that is not given. -/
def fallback? : Flag → Option String
  | .apiExportName => some ""
  | .metricsBindAddress => some ":8080"
  | .healthProbeBindAddress => some ":8081"
  | .leaderElect => some "false"
  | .leaderElectionNamespace => none
  | .webhookCertDir => some "/tmp/k8s-webhook-server/serving-certs"
  | .gracefulShutdownTimeout => some "30"
  | .defaultReleasePvc => none
  | .defaultReleaseWorkspaceName => none
  | .logFormat => some Log.Format.standard.name

/-- The value of a flag that is given without one. -/
def bareValue? : Flag → Option String
  | .leaderElect => some "true"
  | _ => none

/-- The variable that a flag is read from if it is not given. -/
def environmentKey? : Flag → Option String
  | .leaderElectionNamespace => some "POD_NAMESPACE"
  | .logFormat => some "LOG_FORMAT"
  | _ => none

/-- The only values that a flag can have. -/
def possibleValues : Flag → List String
  | .leaderElect => ["true", "false"]
  | .logFormat => Log.Format.all.map Log.Format.name
  | _ => []

/-- The word for the value of a flag: its name in capitals with underscores. -/
def placeholder (f : Flag) : String :=
  String.ofList (f.name.toList.map fun c => if c = '-' then '_' else c.toUpper)

/-- A flag as messages show it. A value that may be missing stands in brackets. -/
def usage (f : Flag) : String :=
  let value := "<" ++ f.placeholder ++ ">"
  "--" ++ f.name ++ " " ++ if f.bareValue?.isSome then "[" ++ value ++ "]" else value

end Flag

/-- The start of the lines that describe a flag. -/
def helpIndent : String := "          "

/-- The text under a key, with a mark in place of bytes that are no text; empty if it is unset. -/
def shownVariable (env : Environment) (key : String) : String :=
  Text.shown (String.ofList (Text.Utf8.lossy ((env.bytes? key).getD [])))

/-- The description of a flag, which is a line unless a variable holds several. -/
def helpLine (env : Environment) (f : Flag) : String :=
  let environment := f.environmentKey?.toList.map fun key =>
    "[env: " ++ key ++ "=" ++ shownVariable env key ++ "]"
  let fallback := f.fallback?.toList.map fun value =>
    "[default: " ++ (if value.isEmpty then "\"\"" else value) ++ "]"
  let possible :=
    if f.possibleValues.isEmpty then []
    else ["[possible values: " ++ ", ".intercalate f.possibleValues ++ "]"]
  let line := " ".intercalate (f.description :: (environment ++ fallback ++ possible))
  ("\n" ++ helpIndent).intercalate (line.splitOn "\n")

/-- How the command is called. -/
def usageLine : String := "Usage: release-operator [OPTIONS]"

/-- The description of all flags. -/
def helpText (env : Environment) : String :=
  "Controller manager for the release service\n\n" ++ usageLine ++ "\n\nOptions:\n" ++
    String.join (Flag.all.map fun f =>
      "      " ++ f.usage ++ "\n" ++ helpIndent ++ helpLine env f ++ "\n") ++
    "  -h, --help\n" ++ helpIndent ++ "Print help\n"

end ControllerManager.Config
