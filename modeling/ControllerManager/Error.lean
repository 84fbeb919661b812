import ControllerManager.Cluster.Fault

/-!
# Errors

The classes of failures between the start of the process and its end, each with what it concerns
and a description.

## Main definitions

* `Error` — a failure.
* `Error.message` — its wording.
-/

namespace ControllerManager

/-- A failure of the manager or of its start. -/
inductive Error where
  /-- A request to the API server failed. -/
  | kube (fault : Cluster.Fault)
  /-- The API groups of the base cluster could not be listed. -/
  | discovery (message : String)
  /-- The virtual workspace of an export could not be found. -/
  | resolution (exportName message : String)
  /-- A flag or a variable has no valid value. -/
  | configuration (message : String)
  /-- The manager or one of its clients could not be built. -/
  | construction (component message : String)
  /-- A controller, a webhook, a check or a kind was rejected. -/
  | registration (kind name message : String)
  /-- An operational default could not be resolved. -/
  | defaults (key message : String)
  /-- The running manager failed. -/
  | runtime (message : String)
  deriving Repr, DecidableEq

/-- The wording of a failure. -/
def Error.message : Error → String
  | .kube fault => "kubernetes error: " ++ fault.message
  | .discovery message => "API discovery failed: " ++ message
  | .resolution exportName message =>
    "unable to resolve virtual workspace for APIExport " ++ Text.quoted exportName ++ ": " ++
      message
  | .configuration message => "configuration error: " ++ message
  | .construction component message => "unable to construct " ++ component ++ ": " ++ message
  | .registration kind name message =>
    "unable to register " ++ kind ++ " " ++ Text.quoted name ++ ": " ++ message
  | .defaults key message => "unable to apply default for " ++ key ++ ": " ++ message
  | .runtime message => "manager runtime error: " ++ message

end ControllerManager
