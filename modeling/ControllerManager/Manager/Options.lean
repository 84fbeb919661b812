import ControllerManager.Config.Settings
import ControllerManager.Election.Elector
import ControllerManager.Election.Identity
import ControllerManager.Scheme.Basic

/-!
# Options of the manager

What the manager is built with, whatever the topology is.

## Main definitions

* `Manager.Options` — the options.
* `Manager.Options.ofSettings` — the options that settings give.
-/

namespace ControllerManager.Manager

/-- What the manager is built with. -/
structure Options where
  scheme : Scheme
  metricsAddress : Option Net.SocketAddress
  healthProbeAddress : Option Net.SocketAddress
  webhookAddress : Net.SocketAddress
  webhookCertDir : String
  leaderElection : Bool
  leaseName : String
  /-- The namespace of the lease, where it is not the one that the process runs in. -/
  leaderElectionNamespace : Option String
  /-- The text of the file with the namespace that the process runs in, where it runs inside of a
  cluster. -/
  inClusterNamespace : Option String
  /-- Under which name the lease is held. -/
  identity : String
  /-- The connection to the base cluster, where the lease is. -/
  base : Cluster.Config
  /-- How long tasks may take to stop, in nanoseconds. -/
  grace : Nat
  /-- Whether there is a recorder of metrics. -/
  recordsMetrics : Bool

/-- The options that settings give to a process. -/
def Options.ofSettings (s : Config.Settings) (scheme : Scheme) (inClusterNamespace : Option String)
    (identity : String) (recordsMetrics : Bool) : Options where
  scheme := scheme
  metricsAddress := s.metricsBindAddress.socketAddress?
  healthProbeAddress := s.healthProbeBindAddress.socketAddress?
  webhookAddress := .v4 .unspecified s.webhookPort
  webhookCertDir := s.webhookCertDir
  leaderElection := s.leaderElect
  leaseName := Election.Elector.standardLease
  leaderElectionNamespace := s.leaderElectionNamespace
  inClusterNamespace := inClusterNamespace
  identity := identity
  base := s.cluster
  grace := s.gracefulShutdownTimeout * Election.Timing.perSecond
  recordsMetrics := recordsMetrics

end ControllerManager.Manager
