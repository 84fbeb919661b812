import ControllerManager.Log.Record
import ControllerManager.Startup.Journal

/-!
# The log of the program

How the notices of a start and the entries of a run stand in the log.

## Main definitions

* `Program.noticeRecords` — the records of a notice.
* `Program.entryRecords` — the records of an entry in the log of a run.
-/

namespace ControllerManager.Program

open Log Startup

/-- The target of the records of the program itself. -/
def target : String := "release_operator"

/-- The target of the records of a part of the program. -/
def targetOf (part : String) : String := target ++ "::" ++ part

/-- A record that says how far the program is. -/
def info (target message : String) (fields : List (String × Value)) : Record :=
  ⟨.info, target, message, fields⟩

/-- The target of the records of the running manager. -/
def managerTarget : String := targetOf "manager"

/-- The target of the records of the election. -/
def electionTarget : String := managerTarget ++ "::leader_election"

/-- The target of the records of the start. -/
def sequencerTarget : String := targetOf "sequencer"

/-- The pause of an elector between two attempts, in seconds. -/
def retrySeconds (e : Election.Elector) : Nat := e.timing.retryInterval / Election.Timing.perSecond

/-- The record of an attempt that did not gain the lease. -/
def attemptRecord (e : Election.Elector) : Election.Verdict → List Record
  | .failed error =>
    [⟨.warn, electionTarget, "Failed to acquire lease, retrying...",
      [("identity", .plain e.identity), ("error", .plain error.message),
       ("retry_secs", .count (retrySeconds e))]⟩]
  | .refused _ =>
    [⟨.debug, electionTarget, "Lease held by another, waiting...",
      [("identity", .plain e.identity), ("retry_secs", .count (retrySeconds e))]⟩]
  | .held _ | .crashed _ => []

/-- The records about the election of an elector. -/
def electionRecords (e : Election.Elector) : Manager.Entry → List Record
  | .electionBegan =>
    [info electionTarget "Attempting to acquire leader lease..."
      [("identity", .plain e.identity), ("lease", .plain e.leaseName),
       ("namespace", .plain e.namespaceName)]]
  | .attemptFailed verdict => attemptRecord e verdict
  | .leaseAcquired =>
    [info electionTarget "Successfully acquired lease"
      [("identity", .plain e.identity), ("lease", .plain e.leaseName)]]
  | _ => []

/-- The records of an entry in the log of a run. -/
def entryRecords (m : Manager) : Manager.Entry → List Record
  | .controllerCalled name _ =>
    [info managerTarget "Starting controller"
      [("controller", .plain name), ("manager", .plain m.kind.name)]]
  | .controllerFinished name =>
    [info managerTarget "Controller finished" [("controller", .plain name)]]
  | .stopAsked => [info target "Received shutdown signal" []]
  | .shutdownBeforeLease =>
    [info managerTarget "Shutdown requested before leadership was acquired" []]
  | .shutdownRequested => [info managerTarget "Shutdown requested, stopping manager" []]
  | .drainTimedOut what =>
    [⟨.warn, managerTarget, "Graceful shutdown timed out, aborting",
      [("what", .quoted what), ("grace_secs", .count (m.grace / Election.Timing.perSecond))]⟩]
  | .releaseFailed error =>
    [⟨.warn, managerTarget, "Failed to release leader lease", [("error", .plain error.message)]⟩]
  | .stoppedWithError error =>
    [⟨.error, managerTarget, "Manager stopped with error", [("error", .plain error.message)]⟩]
  | entry => m.election.toList.flatMap fun e => electionRecords e.elector entry

/-- The records of the answer to the question for a group. -/
def groupRecords (group : String) : Except Error Bool → List Record
  | .ok true =>
    [info (targetOf "discovery") "Multi-tenant API group is present" [("group", .quoted group)]]
  | .ok false =>
    [⟨.debug, targetOf "discovery", "Multi-tenant API group not found",
      [("group", .quoted group)]⟩]
  | .error error =>
    [⟨.warn, targetOf "discovery", "API discovery failed, assuming standalone cluster",
      [("group", .quoted group), ("error", .plain error.message)]⟩]

/-- The records of a notice. -/
def noticeRecords : Notice → List Record
  | .entered stage =>
    [info sequencerTarget "Entering startup stage" [("stage", .plain stage.name)]]
  | .packageRegistered name kinds =>
    [⟨.debug, targetOf "scheme", "Registered scheme package",
      [("package", .plain name), ("kinds", .count kinds)]⟩]
  | .schemeBuilt kinds => [info sequencerTarget "Scheme built" [("kinds", .count kinds)]]
  | .groupAsked group answer => groupRecords group answer
  | .workspaceSought exportName =>
    [info (targetOf "topology") "Looking up virtual workspace URL"
      [("api_export_name", .plain exportName)]]
  | .workspaceFound url =>
    [info (targetOf "topology") "Using virtual workspace URL" [("url", .plain url)]]
  | .topologyChosen .standalone =>
    [info (targetOf "topology")
      ("The " ++ Cluster.exportGroup ++ " group is not present - using standalone topology") []]
  | .topologyChosen (.virtualWorkspace _ _) => []
  | .managerBuilt kind host elects =>
    [info managerTarget "Constructed manager"
      [("manager", .plain kind.name), ("host", .plain host), ("leader_election", .truth elects)]]
  | .defaultApplied applied =>
    [info (targetOf "defaults") "Applied operational default"
      [("key", .plain applied.key), ("value", .plain applied.value),
       ("source", .plain applied.origin.name)]]
  | .webhooksSkipped => [info sequencerTarget "Webhooks disabled, skipping registration" []]
  | .webhookRegistered name path =>
    [info managerTarget "Registered webhook" [("webhook", .plain name), ("path", .plain path)]]
  | .managerStarted kind host =>
    [info sequencerTarget "Starting manager"
      [("manager", .plain kind.name), ("host", .plain host)]]
  | .managerTold m _ entry => entryRecords m entry

end ControllerManager.Program
