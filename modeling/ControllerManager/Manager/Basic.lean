import ControllerManager.Manager.Controller
import ControllerManager.Manager.Options
import ControllerManager.Probe.Checks
import ControllerManager.Topology
import ControllerManager.Webhook.Service

/-!
# The manager

The manager is bound to the base cluster or to a virtual workspace, and knows what was registered
with it. The lease of its election is always in the base cluster.

## Main definitions

* `Manager` — a manager.
* `Manager.build` — the manager for a topology.
* `Manager.wildcardUrl` — the view of all clusters of a workspace.
-/

namespace ControllerManager

/-- To what a manager is bound. -/
inductive Manager.Kind where
  | standard
  /-- All clusters of a virtual workspace. -/
  | clusterAware
  deriving Repr, DecidableEq

/-- How the election of a manager takes place. -/
structure Manager.LeaderElection where
  elector : Election.Elector
  /-- The address of the cluster with the lease. -/
  host : String
  deriving Repr, DecidableEq

/-- A manager. -/
structure Manager where
  kind : Manager.Kind
  /-- The address that the manager was built for. -/
  host : String
  /-- The connection of the controllers. -/
  workload : Cluster.Config
  scheme : Scheme
  metricsAddress : Option Net.SocketAddress
  healthProbeAddress : Option Net.SocketAddress
  webhookAddress : Net.SocketAddress
  webhookCertDir : String
  /-- How long tasks may take to stop, in nanoseconds. -/
  grace : Nat
  recordsMetrics : Bool
  election : Option Manager.LeaderElection
  controllers : Roster Manager.Controller
  webhooks : Catalog Webhook.Mounted
  healthz : Probe.Checks
  readyz : Probe.Checks
  defaults : Defaults.Values

namespace Manager

namespace Kind

/-- The name of a kind of managers. -/
def name : Kind → String
  | .standard => "standard"
  | .clusterAware => "cluster-aware"

/-- The words for a kind of managers in messages. -/
def component : Kind → String
  | .standard => "standard manager"
  | .clusterAware => "cluster-aware manager"

end Kind

/-- The part of a path that selects all clusters of a workspace. -/
def wildcardPath : String := "/clusters/*"

/-- A text without slashes at its end. -/
def trimSlashes (cs : List Char) : List Char := (cs.reverse.dropWhile (· == '/')).reverse

/-- The view of all clusters of a workspace. -/
def wildcardUrl (endpoint : Net.Uri) : Except Net.UriFault Net.Uri :=
  Net.Uri.parse (String.ofList (trimSlashes endpoint.print ++ wildcardPath.toList))

/-- To what the manager for a topology is bound: its kind, the connection of the controllers, and
the address that it is built for. -/
def binding (topology : Topology) (base : Cluster.Config) :
    Except Error (Kind × Cluster.Config × String) :=
  match topology with
  | .standalone => .ok (.standard, base, base.url.toText)
  | .virtualWorkspace endpoint host =>
    match wildcardUrl endpoint.url with
    | .ok url => .ok (.clusterAware, { endpoint with url := url }, host)
    | .error fault => .error (.construction Kind.clusterAware.component fault.message)

/-- The election that options ask for. -/
def electionOf (o : Options) : Except Error (Option LeaderElection) :=
  if !o.leaderElection then .ok none
  else do
    let ns ← Election.pickNamespace o.leaderElectionNamespace o.inClusterNamespace
    match o.base.check with
    | .error message => .error (.construction "leader election client" message)
    | .ok () =>
      return some {
        elector := ⟨o.identity, o.leaseName, ns, .standard⟩
        host := o.base.url.toText }

/-- The manager for a topology, with which nothing is registered. -/
def build (topology : Topology) (o : Options) : Except Error Manager := do
  let (kind, workload, host) ← binding topology o.base
  match workload.check with
  | .error message => .error (.construction kind.component message)
  | .ok () =>
    let election ← electionOf o
    return {
      kind := kind
      host := host
      workload := workload
      scheme := o.scheme
      metricsAddress := o.metricsAddress
      healthProbeAddress := o.healthProbeAddress
      webhookAddress := o.webhookAddress
      webhookCertDir := o.webhookCertDir
      grace := o.grace
      recordsMetrics := o.recordsMetrics
      election := election
      controllers := .empty
      webhooks := .empty
      healthz := .empty
      readyz := .empty
      defaults := .standard }

end Manager

end ControllerManager
