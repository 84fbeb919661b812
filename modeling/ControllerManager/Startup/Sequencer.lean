import ControllerManager.Manager.Options
import ControllerManager.Startup.Journal
import ControllerManager.Webhook.Resource

/-!
# The sequencer

It takes the manager through the stages of its start: the scheme, the topology, the manager itself,
its defaults, controllers, webhooks and checks. The first failure ends the start. Then the manager
runs, and a run without a failure leads to the last stage.

## Main definitions

* `Startup.Collaborators` — what is registered with the manager.
* `Startup.Sequencer` — what a start needs.
* `Startup.Course` — a start in progress.
* `Startup.Sequencer.prepare` — the stages up to the manager that is ready to run.
* `Startup.attend` — the stages of its run.
-/

namespace ControllerManager.Startup

open Webhook

/-- What registers controllers, and whatever else it likes, with the manager. -/
abbrev Registrar := Manager → Except Error Manager

/-- A set of controllers registers each of them. -/
def Registrar.ofControllers (set : Manager.ControllerSet) : Registrar := fun m =>
  match m.addControllers set.members.entries with
  | (m, none) => .ok m
  | (_, some error) => .error error

/-- What is registered with the manager. -/
structure Collaborators where
  schemeBuilders : List Scheme.Builder
  registrar : Registrar
  webhooks : List Collaborator

/-- The collaborators for a registrar and the handlers of the release service. -/
def Collaborators.release (registrar : Registrar) (handlers : ReleaseHandlers) : Collaborators :=
  ⟨Scheme.releaseBuilders, registrar, (releaseWebhooks handlers).map Resource.collaborator⟩

/-- The collaborators without controllers, whose webhooks allow everything. -/
def Collaborators.standard : Collaborators := .release (.ofControllers .empty) .standard

/-- What a start needs, apart from the answers of the cluster. -/
structure Sequencer where
  settings : Config.Settings
  environment : Environment.Source
  collaborators : Collaborators
  /-- The text of the file with the namespace that the process runs in, where it runs inside of a
  cluster. -/
  inClusterNamespace : Option String
  /-- Under which name the manager holds its lease. -/
  identity : String
  /-- Whether there is a recorder of metrics. -/
  recordsMetrics : Bool

/-- Why a start does not go on. -/
inductive Halt where
  | failed (failure : Failure)
  /-- A stage was about to be entered that does not come behind the last one. -/
  | disordered
  /-- The manager died without a result. -/
  | crashed

/-- A start in progress, with its journal. -/
abbrev Course := ExceptT Halt (StateM Journal)

/-- A notice in the journal. -/
def tell (notice : Notice) : Course Unit := modify (·.tell notice)

/-- Notices in the journal. -/
def tellAll (notices : List Notice) : Course Unit :=
  modify fun journal => notices.foldl Journal.tell journal

/-- The entry into a stage. -/
def enter (stage : Stage) : Course Unit := do
  match (← get).enter? stage with
  | some journal => set journal
  | none => throw .disordered

/-- A result at a stage. -/
def settle {α : Type} (stage : Stage) : Except Error α → Course α
  | .ok value => return value
  | .error error => throw (.failed ⟨stage, error⟩)

namespace Sequencer

/-- The first stage and the entry into the second: the scheme. -/
def begin (s : Sequencer) : Course Scheme := do
  enter .parseConfig
  let (built, progress) := Scheme.buildFrom .empty s.collaborators.schemeBuilders
  tellAll (progress.map fun (name, kinds) => .packageRegistered name kinds)
  let scheme ← settle .parseConfig built
  tell (.schemeBuilt scheme.size)
  enter .resolveTopology
  return scheme

/-- What the choice of a topology tells. -/
def topologyNotices (exportName : String) (r : Topology.Resolution) : List Notice :=
  .groupAsked Cluster.exportGroup r.group ::
    (match r.group with
      | .ok true => [.workspaceSought exportName]
      | _ => []) ++
    match r.result with
    | .ok (.virtualWorkspace endpoint host) =>
      [.workspaceFound host, .topologyChosen (.virtualWorkspace endpoint host)]
    | .ok .standalone => [.topologyChosen .standalone]
    | .error _ => []

/-- The manager for the topology that was chosen. -/
def buildManager (s : Sequencer) (scheme : Scheme) (r : Topology.Resolution) : Course Manager := do
  tellAll (topologyNotices s.settings.apiExportName r)
  let topology ← settle .resolveTopology r.result
  enter .buildManager
  let options := Manager.Options.ofSettings s.settings scheme s.inClusterNamespace s.identity
    s.recordsMetrics
  let m ← settle .buildManager (Manager.build topology options)
  tell (.managerBuilt m.kind m.host m.election.isSome)
  return m

/-- The manager with the operational defaults. -/
def applyDefaults (s : Sequencer) (m : Manager) : Course Manager := do
  enter .applyDefaults
  let resolver := (Defaults.Resolver.ofSource s.environment).withOverrides s.settings.overrides
  let (resolved, after) := resolver.resolve
  tellAll (after.history.map .defaultApplied)
  let values ← settle .applyDefaults resolved
  return m.setDefaults values

/-- The manager with what the registrar registers. -/
def registerControllers (s : Sequencer) (m : Manager) : Course Manager := do
  enter .registerControllers
  settle .registerControllers (s.collaborators.registrar m)

/-- The manager with the webhooks, where they are turned on. -/
def registerWebhooks (s : Sequencer) (m : Manager) : Course Manager := do
  if s.settings.enableWebhooks then
    enter .registerWebhooks
    let (m, mounted, rejection) := Collaborator.registerAll m s.collaborators.webhooks
    tellAll (mounted.map fun (path, webhook) => .webhookRegistered webhook.name path)
    settle .registerWebhooks (match rejection with | none => .ok m | some e => .error e)
  else
    tell .webhooksSkipped
    return m

/-- The manager with one check at each endpoint, which always pass. -/
def registerProbes (m : Manager) : Course Manager := do
  enter .registerProbes
  let m ← settle .registerProbes (m.addHealthz "healthz" .passing)
  settle .registerProbes (m.addReadyz "readyz" .passing)

/-- The stages behind the choice of a topology. -/
def assemble (s : Sequencer) (scheme : Scheme) (r : Topology.Resolution) : Course Manager := do
  let m ← s.buildManager scheme r
  let m ← s.applyDefaults m
  let m ← s.registerControllers m
  let m ← s.registerWebhooks m
  registerProbes m

/-- The stages up to the manager that is ready to run, from a journal on. The cluster is asked only
where the stages before went well. -/
def prepare {m : Type → Type} [Monad m] (s : Sequencer) (surface : Cluster.Surface m)
    (journal : Journal) : m (Except Halt Manager × Journal) := do
  match s.begin.run.run journal with
  | (.error halt, journal) => return (.error halt, journal)
  | (.ok scheme, journal) =>
    let r ← Topology.resolution surface s.settings.cluster s.settings.apiExportName
    return (s.assemble scheme r).run.run journal

end Sequencer

/-- The stage at which a prepared manager starts to run. -/
def launch (m : Manager) : Course Unit := do
  enter .run
  tell (.managerStarted m.kind m.host)

/-- The stages of a run of a prepared manager, whose course is known. A run that ended without a
failure leads to the last stage. -/
def attend (m : Manager) (r : Manager.Run) : Course Unit := do
  launch m
  tellAll (r.log.reverse.map fun (time, entry) => .managerTold m time entry)
  match r.phase with
  | .over none => enter .exit
  | .over (some error) => throw (.failed ⟨.run, error⟩)
  | .crashed => throw .crashed
  | _ => return ()

end ControllerManager.Startup
