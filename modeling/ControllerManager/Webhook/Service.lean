import ControllerManager.Admission.Response
import ControllerManager.Http.MediaType
import ControllerManager.Http.Message
import ControllerManager.Http.Route
import ControllerManager.Metrics
import ControllerManager.Registry.Catalog

/-!
# The webhook server

Each webhook stands at a path and judges the reviews that are posted there.

## Main definitions

* `Webhook.Mounted` — a webhook at a path.
* `Webhook.Service` — the webhooks by their paths.
* `Webhook.Service.respond` — the answer to a request, and the judgement it took.
-/

namespace ControllerManager.Webhook

open Admission

/-- A webhook at a path. -/
structure Mounted where
  name : String
  handler : Handler

/-- A request that a webhook judged, and its outcome. -/
structure Judgement where
  webhook : String
  allowed : Bool
  deriving Repr, DecidableEq

/-- The webhooks by their paths. -/
structure Service where
  routes : Http.RouteTable Mounted

namespace Service

/-- The service of webhooks at written paths, unless one is no pattern or two of them conflict. -/
def build? (webhooks : Catalog Mounted) : Option Service :=
  (Http.RouteTable.build? webhooks.entries).map (⟨·⟩)

/-- The most bytes that a body may have. -/
def maxBodySize : Nat := 2 <<< 20

/-- Why a posted body is no review. -/
inductive Refusal where
  | mediaType
  | tooLarge
  | malformed
  | misshapen
  deriving Repr, DecidableEq

/-- The answer to a body that is no review. -/
def Refusal.response : Refusal → Http.Response
  | .mediaType => .text 415 "Expected request with `Content-Type: application/json`"
  | .tooLarge => .text 413 "Failed to buffer the request body"
  | .malformed => .text 400 "Failed to parse the request body as JSON"
  | .misshapen => .text 422 "Failed to deserialize the JSON body into the target type"

/-- Whether a request says that its body is JSON. -/
def declaresJson (request : Http.Request) : Bool :=
  match request.contentType.bind Http.MediaType.parse? with
  | some mediaType => mediaType.isJson
  | none => false

/-- The review that a request posts. The header is judged before the size, and that before the
text. -/
def readReview (request : Http.Request) : Except Refusal Json :=
  if !declaresJson request then .error .mediaType
  else if maxBodySize < request.body.length then .error .tooLarge
  else
    match reviewShape.parseBytes request.body with
    | .ok review => .ok review
    | .error .malformed => .error .malformed
    | .error .misshapen => .error .misshapen

/-- The verdict on a review, and the judgement of the handler where it was asked. -/
def judge (webhook : Mounted) (review : Json) : Response × Option Judgement :=
  match Request.ofReview? review with
  | none => (.invalid missingRequest, none)
  | some request =>
    let response := webhook.handler request
    (response, some ⟨webhook.name, response.allowed⟩)

/-- The answer of a webhook to a request, and its judgement. -/
def post (webhook : Mounted) (request : Http.Request) : Http.Response × Option Judgement :=
  match readReview request with
  | .error refusal => (refusal.response, none)
  | .ok review =>
    let (response, judgement) := judge webhook review
    (.json response.review, judgement)

/-- The answer to a request, and the judgement it took. -/
def respond (s : Service) (request : Http.Request) : Http.Response × Option Judgement :=
  match s.routes.lookup request.path with
  | none => (.notFound, none)
  | some (webhook, _) =>
    match request.method with
    | .post => post webhook request
    | _ => (.methodNotAllowed "POST", none)

/-- The samples after a judgement. -/
def record (m : Metrics) : Option Judgement → Metrics
  | none => m
  | some judgement => m.recordAdmission judgement.webhook judgement.allowed

/-- The answers to requests in order, and the samples after them. -/
def serve (s : Service) (m : Metrics) : List Http.Request → List Http.Response × Metrics
  | [] => ([], m)
  | request :: rest =>
    let (response, judgement) := s.respond request
    let (responses, m) := serve s (record m judgement) rest
    (response :: responses, m)

end Service

end ControllerManager.Webhook
