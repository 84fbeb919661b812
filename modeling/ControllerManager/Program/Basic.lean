import ControllerManager.Cluster.Inference
import ControllerManager.Config.Settings
import ControllerManager.Election.Identity
import ControllerManager.Log.Filter
import ControllerManager.Program.Records
import ControllerManager.Startup.Sequencer
import ControllerManager.Text.Lines

/-!
# The program

The whole life of the process: it reads its flags, finds its cluster, starts the manager and runs
it until it is asked to stop. A failure on the way ends it.

## Main definitions

* `Program.Invocation` — what the process finds when it is started, and what happens to it.
* `Program.Outcome` — what becomes of it.
* `Program.run` — the outcome of an invocation.
-/

namespace ControllerManager.Program

open Log Startup

/-- What the process finds when it is started, and what happens to it. -/
structure Invocation where
  arguments : List String
  environment : Environment
  kubeconfigPath : String
  /-- The text of the kubeconfig, if there is one. -/
  kubeconfig : Option String
  files : Cluster.Files
  /-- What distinguishes the process from others on the same machine. -/
  uuid : Election.Uuid
  /-- How the base cluster is asked before the manager runs. -/
  exchange : Cluster.Exchange Id
  /-- What surrounds the running manager. -/
  surroundings : Manager.Surroundings
  /-- For how long the running manager is watched, in nanoseconds. -/
  limit : Nat

/-- What becomes of the process. -/
structure Outcome where
  /-- Nothing where the process still runs. -/
  exitCode : Option Nat
  format : Format
  /-- The lines before the log. -/
  output : List String
  complaints : List String
  /-- The log, as far as it is kept. -/
  records : List Record

/-- The version of the program. -/
def version : String := "0.1.0"

/-- The variable with the filter of the log. -/
def filterVariable : String := "RUST_LOG"

/-- The variable with the name of the machine. -/
def hostVariable : String := "HOSTNAME"

/-- The variables that the program looks at. -/
def watchedVariables : List String :=
  Config.Flag.all.filterMap Config.Flag.environmentKey? ++
    [Config.Settings.webhooksVariable, Defaults.pvcKey, Defaults.workspaceKey, filterVariable,
     hostVariable, Cluster.Inside.hostVariable, Cluster.Inside.portVariable]

/-- The exit code of a process whose flags are not understood. -/
def usageExit : Nat := 2

/-- The exit code of a process that fails. -/
def failureExit : Nat := 1

/-- The exit code of a process that dies. -/
def crashExit : Nat := 101

/-- The last record of a process that fails. -/
def failureRecord (message : String) (stage : Stage) (error : String) : Record :=
  ⟨.error, target, message, [("stage", .plain stage.name), ("error", .plain error)]⟩

/-- What a course of events leaves: its records, and how it ended if it did. -/
structure Trace where
  records : List Record
  exitCode : Option Nat

/-- A course of events that fails at a stage. -/
def Trace.failed (message : String) (stage : Stage) (error : String) : Trace :=
  ⟨[failureRecord message stage error], some failureExit⟩

/-- A course of events behind records. -/
def Trace.after (records : List Record) (t : Trace) : Trace :=
  { t with records := records ++ t.records }

/-- The course of events behind a halt. -/
def Trace.halted : Halt → Trace
  | .failed f => .failed "release-operator failed" f.stage f.error.message
  | .disordered | .crashed => ⟨[], some crashExit⟩

/-- The records of a journal. -/
def recordsOf (journal : Journal) : List Record := journal.notices.flatMap noticeRecords

/-- The course of events of a run of a prepared manager. -/
def runTrace (i : Invocation) (m : Manager) (journal : Journal) : Trace :=
  let r := (Manager.Run.start m i.surroundings).upTo i.limit
  let (result, journal) := (attend m r).run.run journal
  .after (recordsOf journal) <|
    match result, r.isOver with
    | .error halt, _ => .halted halt
    | .ok (), true => ⟨[info target "Manager stopped" []], some 0⟩
    | .ok (), false => ⟨[], none⟩

/-- The name under which a process holds its lease. -/
def identityOf (i : Invocation) : String :=
  Election.defaultIdentity (i.environment.read hostVariable).text? i.uuid

/-- The text of the file with the namespace that a process runs in, if it can be read. -/
def inClusterNamespace? (i : Invocation) : Option String :=
  (i.files Cluster.Inside.namespaceFile).bind fun bytes =>
    (Text.Utf8.decode? bytes).map String.ofList

/-- The course of events of a start with settings. -/
def startTrace (i : Invocation) (settings : Config.Settings) : Trace :=
  let sequencer : Sequencer :=
    { settings := settings, environment := i.environment.read, collaborators := .standard,
      inClusterNamespace := inClusterNamespace? i, identity := identityOf i,
      recordsMetrics := true }
  match sequencer.prepare (.ofExchange i.exchange) .empty with
  | (.ok m, journal) => runTrace i m journal
  | (.error halt, journal) => (Trace.halted halt).after (recordsOf journal)

/-- The course of events with flags that are understood. -/
def trace (i : Invocation) (flags : Config.Flags) : Trace :=
  .after [info target "Starting release-operator" [("version", .quoted version)]] <|
    match Cluster.infer i.environment.read i.files i.kubeconfigPath i.kubeconfig with
    | .error message => .failed "unable to load cluster configuration" .parseConfig message
    | .ok cluster =>
      match Config.Settings.ofFlags flags cluster i.environment.read with
      | .error error => .failed "invalid configuration" .parseConfig error.message
      | .ok settings =>
        match cluster.check with
        | .error message =>
          .failed "unable to create discovery client" .resolveTopology
            (Error.construction "base cluster client" message).message
        | .ok () => startTrace i settings

/-- The text of the filter of the log, which is empty where it cannot be read. -/
def filterText (i : Invocation) : String :=
  ((i.environment.read filterVariable).text?).getD ""

/-- The outcome of an invocation with flags that are understood. -/
def outcomeOf (i : Invocation) (flags : Config.Flags) : Outcome :=
  let t := trace i flags
  let filter := Filter.parse (filterText i)
  { exitCode := t.exitCode
    format := flags.logFormat
    output := []
    complaints := Filter.complaints (filterText i)
    records := t.records.filter fun r => filter.keeps r.level r.target }

/-- The outcome of an invocation. -/
def run (i : Invocation) : Outcome :=
  match Config.Flags.parse i.environment i.arguments with
  | .ok flags => outcomeOf i flags
  | .error .help => ⟨some 0, .standard, Text.lines (Config.helpText i.environment), [], []⟩
  | .error fault => ⟨some usageExit, .standard, [], [fault.message], []⟩

end ControllerManager.Program
