import ControllerManager.Program.Basic
import Std.Time.DateTime.Timestamp

/-!
# The command

The outer layer of the program: it collects what the process finds, and prints what the program
says. The process is asked to stop by the end of its input. It has no way to a cluster: the start
goes on as it does where the cluster cannot be reached.
-/

namespace ControllerManager.Program

open Cluster

/-- The bytes of a file, if it can be read. -/
def fileBytes? (path : String) : IO (Option (List UInt8)) := do
  try
    return some (← IO.FS.readBinFile path).toList
  catch _ => return none

/-- The variables that the program looks at. -/
def readEnvironment : IO Environment := do
  let mut found := []
  for key in watchedVariables do
    if let some value ← IO.getEnv key then
      found := (key, Text.Utf8.encode value.toList) :: found
  return ⟨found⟩

/-- What the wall clock shows. -/
def readClock : IO Lease.Instant := do
  return (← Std.Time.Timestamp.now).toNanosecondsSinceUnixEpoch.toInt / 1000

/-- Random bytes as an identifier. -/
def readUuid : IO Election.Uuid := do
  return ⟨(← IO.getRandomBytes 16).toList.foldl (fun n b => n * 256 + b.toNat) 0⟩

/-- The path of the kubeconfig. -/
def kubeconfigPath : IO String := do
  match ← IO.getEnv "KUBECONFIG" with
  | some path => return path
  | none => return ((← IO.getEnv "HOME").getD "") ++ "/.kube/config"

/-- The directory for the serving certificate that arguments name. -/
def certificateDirectory (env : Environment) (arguments : List String) : String :=
  match Config.Flags.parse env arguments with
  | .ok flags => flags.webhookCertDir
  | .error _ => Config.Flags.standard.webhookCertDir

/-- The state of the directory for the serving certificate. -/
def readCertificates (directory : String) : IO Manager.Certificates := do
  let certificate ← fileBytes? (Manager.pathIn directory Manager.certificateFile)
  let key ← fileBytes? (Manager.pathIn directory Manager.keyFile)
  return .ofFiles certificate key

/-- What the process finds when it is started. -/
def readInvocation (arguments : List String) : IO Invocation := do
  let env ← readEnvironment
  let path ← kubeconfigPath
  let kubeconfig := (← fileBytes? path).map fun bytes => String.ofList (Text.Utf8.lossy bytes)
  let mut files := []
  for name in Inside.namespaceFile :: Inside.certificateFile ::
      Kubeconfig.files (kubeconfig.getD "") do
    if let some bytes ← fileBytes? name then files := (name, bytes) :: files
  let directory := certificateDirectory env arguments
  let certificates ← readCertificates directory
  let start ← readClock
  let known := files
  return {
    arguments := arguments
    environment := env
    kubeconfigPath := path
    kubeconfig := kubeconfig
    files := fun name => (known.find? (·.1 == name)).map (·.2)
    uuid := ← readUuid
    exchange := fun _ => .error Simulation.World.disconnected
    surroundings := {
      site := ⟨[], fun _ => true, fun _ => certificates⟩
      server := ⟨.empty, [], false, false⟩
      connected := false
      clock := Lease.Instant.after start
      signal := .initial
      agenda := [] }
    limit := 0 }

/-- A record in the form that was chosen. -/
def printRecord (format : Log.Format) (r : Log.Record) : IO Unit := do
  let time := (← readClock).toText
  match format with
  | .json => IO.println (r.json time).toText
  | .text => IO.println (r.line time)

/-- The end of the input. -/
partial def awaitEnd (input : IO.FS.Stream) : IO Unit := do
  if !(← input.getLine).isEmpty then awaitEnd input

/-- What the process says before it is asked to stop, and what it says when it is. -/
def perform (i : Invocation) : IO UInt32 := do
  let before := run i
  before.output.forM IO.println
  before.complaints.forM IO.eprintln
  before.records.forM (printRecord before.format)
  match before.exitCode with
  | some code => return .ofNat code
  | none =>
    let start ← IO.monoNanosNow
    awaitEnd (← IO.getStdin)
    let stop := (← IO.monoNanosNow) - start
    let stopped :=
      { i with
        surroundings := { i.surroundings with agenda := [(stop, .shutdown)] }
        limit := stop + 1000000 * Election.Timing.perSecond }
    let after := run stopped
    (after.records.drop before.records.length).forM (printRecord after.format)
    return .ofNat (after.exitCode.getD failureExit)

end ControllerManager.Program

/-- The command. -/
def main (arguments : List String) : IO UInt32 := do
  ControllerManager.Program.perform (← ControllerManager.Program.readInvocation arguments)
