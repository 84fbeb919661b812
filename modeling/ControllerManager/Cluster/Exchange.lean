import ControllerManager.Cluster.Fault
import ControllerManager.Http.Status
import ControllerManager.Json.Printer
import ControllerManager.Json.Shape
import ControllerManager.Net.Uri

/-!
# Exchanges with the API server

A request names a resource by its path; an answer has a status and a text. An answer with an error
status is a refusal, in the words of the server where it sends an error object.

## Main definitions

* `Cluster.Target` — the path of a request.
* `Cluster.Answer` — an answer of the server.
* `Cluster.Answer.read` — the value that an answer holds.
-/

namespace ControllerManager.Cluster

/-- The path of a request with its query. -/
abbrev Target := String

/-- The path of a request, unless it is no address. A fragment is dropped. -/
def Target.parse (text : String) : Except Fault Target :=
  match Net.Uri.parse text with
  | .ok uri => .ok (String.ofList uri.target.print)
  | .error fault => .error (.unbuildable ("failed to build request: " ++ fault.message))

/-- A request for a resource without a name cannot be made. -/
def requireName (name : String) : Except Fault Unit :=
  if name.isEmpty then
    .error (.unbuildable "failed to validate request: A non-empty name is required")
  else .ok ()

/-- An answer of the server. -/
structure Answer where
  status : Nat
  text : String
  deriving Repr, DecidableEq

/-- The word of the server for a kind of refusal. -/
def reasonOf (status : Nat) : String :=
  match status with
  | 404 => "NotFound"
  | 405 => "MethodNotAllowed"
  | 409 => "Conflict"
  | 503 => "ServiceUnavailable"
  | _ => "InternalError"

/-- The refusal of that status. -/
def Refusal.ofStatus (status : Nat) : Refusal :=
  ⟨"Failure", reasonOf status, reasonOf status, status⟩

/-- The shape of an error object. -/
def Refusal.shape : Json.Shape :=
  .record .positional
    [("status", false, .text), ("message", true, .text), ("reason", true, .text),
     ("code", false, .integer 0 65535)] .ignored

/-- The refusal that an error object holds. -/
def Refusal.ofJson (j : Json) : Refusal where
  status := ((j.get? "status").bind Json.str?).getD ""
  message := ((j.get? "message").bind Json.str?).getD ""
  reason := ((j.get? "reason").bind Json.str?).getD ""
  code := (((j.get? "code").bind Json.int?).getD 0).toNat

/-- The refusal that an answer holds, in the words of the server or, where its text is no error
object, with the text itself. -/
def Answer.refusal (a : Answer) : Refusal :=
  match Refusal.shape.parse a.text with
  | .ok j => Refusal.ofJson j
  | .error _ =>
    ⟨Http.statusText a.status, Text.quoted a.text, "Failed to parse error data", a.status⟩

/-- Whether an answer has an error status. -/
def Answer.isRefusal (a : Answer) : Bool := 400 ≤ a.status && a.status < 600

/-- The value of a shape that an answer holds. -/
def Answer.read (shape : Json.Shape) (a : Answer) : Except Fault Json :=
  if a.isRefusal then .error (.refused a.refusal)
  else
    match shape.parse a.text with
    | .ok j => .ok j
    | .error .malformed => .error (.undecodable "invalid JSON")
    | .error .misshapen => .error (.undecodable "invalid value")

end ControllerManager.Cluster
