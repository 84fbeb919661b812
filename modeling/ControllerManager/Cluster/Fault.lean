import ControllerManager.Text.Quoted

/-!
# Faults of the cluster API

Why a request to the API server of a cluster has no usable answer.

## Main definitions

* `Cluster.Refusal` — an error answer.
* `Cluster.Fault` — why a request has no usable answer.
* `Cluster.Fault.message` — the wording.
-/

namespace ControllerManager.Cluster

/-- An error answer of the API server. -/
structure Refusal where
  status : String
  message : String
  reason : String
  code : Nat
  deriving Repr, DecidableEq

/-- Why a request has no usable answer. -/
inductive Fault where
  /-- The server answered with an error. -/
  | refused (refusal : Refusal)
  /-- No answer came. -/
  | unreachable (cause : String)
  /-- The request could not be made. -/
  | unbuildable (cause : String)
  /-- The answer is not what was asked for. -/
  | undecodable (cause : String)
  deriving Repr, DecidableEq

/-- The fields of an error answer with quoted texts. -/
def Refusal.details (r : Refusal) : String :=
  "ErrorResponse \x7b status: " ++ Text.quoted r.status ++ ", message: " ++ Text.quoted r.message ++
    ", reason: " ++ Text.quoted r.reason ++ ", code: " ++ toString r.code ++ " \x7d"

/-- The wording of a fault. -/
def Fault.message : Fault → String
  | .refused r => "ApiError: " ++ r.message ++ ": " ++ r.reason ++ " (" ++ r.details ++ ")"
  | .unreachable cause => "ServiceError: " ++ cause
  | .unbuildable cause => "Failed to build request: " ++ cause
  | .undecodable cause => "Error deserializing response: " ++ cause

/-- An error answer whose reason says that the resource is absent. -/
def Fault.isNotFound : Fault → Bool
  | .refused r => r.reason == "NotFound"
  | _ => false

end ControllerManager.Cluster
