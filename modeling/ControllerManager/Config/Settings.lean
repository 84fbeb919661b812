import ControllerManager.Cluster.Config
import ControllerManager.Config.BindAddress
import ControllerManager.Config.Flags
import ControllerManager.Defaults

/-!
# Settings

What the process works with for its whole life: the base cluster, the flags in their meaning, and
the switch for webhooks.

## Main definitions

* `Config.Settings` — the settings.
* `Config.Settings.ofFlags` — the settings that flags and an environment give.
-/

namespace ControllerManager.Config

/-- What the process works with for its whole life. -/
structure Settings where
  /-- The connection to the base cluster. -/
  cluster : Cluster.Config
  apiExportName : String
  metricsBindAddress : BindAddress
  healthProbeBindAddress : BindAddress
  leaderElect : Bool
  leaderElectionNamespace : Option String
  enableWebhooks : Bool
  webhookPort : UInt16
  webhookCertDir : String
  /-- In seconds. -/
  gracefulShutdownTimeout : Nat
  overrides : Defaults.Overrides
  deriving Repr

namespace Settings

/-- The variable of the switch for webhooks. -/
def webhooksVariable : String := "ENABLE_WEBHOOKS"

/-- The port of the webhook server. -/
def standardWebhookPort : UInt16 := 9443

/-- Whether the environment turns webhooks on. -/
def webhookSwitch (env : Environment.Source) : Except Error Bool :=
  match env webhooksVariable with
  | .unset => .ok (webhooksEnabled none)
  | .text value => .ok (webhooksEnabled (some value))
  | .unreadable bytes =>
    .error (.configuration
      ("invalid " ++ webhooksVariable ++ ": " ++ Environment.unreadableMessage bytes))

/-- The settings that flags and an environment give. The switch is read before the addresses. -/
def ofFlags (flags : Flags) (cluster : Cluster.Config) (env : Environment.Source) :
    Except Error Settings := do
  let enableWebhooks ← webhookSwitch env
  let metrics ← BindAddress.parse flags.metricsBindAddress
  let healthProbe ← BindAddress.parse flags.healthProbeBindAddress
  return {
    cluster := cluster
    apiExportName := Text.trim flags.apiExportName
    metricsBindAddress := metrics
    healthProbeBindAddress := healthProbe
    leaderElect := flags.leaderElect
    leaderElectionNamespace :=
      flags.leaderElectionNamespace.filter fun ns => !(Text.trim ns).isEmpty
    enableWebhooks := enableWebhooks
    webhookPort := standardWebhookPort
    webhookCertDir := flags.webhookCertDir
    gracefulShutdownTimeout := flags.gracefulShutdownTimeout
    overrides := ⟨flags.defaultReleasePvc, flags.defaultReleaseWorkspaceName⟩ }

end Settings

end ControllerManager.Config
