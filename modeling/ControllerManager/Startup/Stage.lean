import ControllerManager.Error

/-!
# Stages of the start

The stages between the start of the process and its end, in the order in which they are entered.

## Main definitions

* `Startup.Stage` — the stages.
* `Startup.Stage.ordinal` — the place of a stage.
* `Startup.Failure` — a failure and the stage that it ended.
-/

namespace ControllerManager.Startup

/-- The stages in the order in which they are entered. -/
inductive Stage where
  | parseConfig
  | resolveTopology
  | buildManager
  | applyDefaults
  | registerControllers
  | registerWebhooks
  | registerProbes
  | run
  | exit
  deriving Repr, DecidableEq

namespace Stage

/-- The place of a stage, counted from zero. -/
def ordinal : Stage → Nat
  | parseConfig => 0
  | resolveTopology => 1
  | buildManager => 2
  | applyDefaults => 3
  | registerControllers => 4
  | registerWebhooks => 5
  | registerProbes => 6
  | run => 7
  | exit => 8

/-- The name of a stage. -/
def name : Stage → String
  | parseConfig => "parse-config"
  | resolveTopology => "resolve-topology"
  | buildManager => "build-manager"
  | applyDefaults => "apply-defaults"
  | registerControllers => "register-controllers"
  | registerWebhooks => "register-webhooks"
  | registerProbes => "register-probes"
  | run => "run"
  | exit => "exit"

end Stage

/-- A failure and the stage that it ended. -/
structure Failure where
  stage : Stage
  error : Error
  deriving Repr, DecidableEq

/-- The wording of a failure with its stage. -/
def Failure.message (f : Failure) : String := f.stage.name ++ " failed: " ++ f.error.message

end ControllerManager.Startup
