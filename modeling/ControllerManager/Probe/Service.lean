import ControllerManager.Http.Message
import ControllerManager.Http.Percent
import ControllerManager.Http.Route
import ControllerManager.Probe.Checks

/-!
# The probe server

The two endpoints `healthz` and `readyz`, each as a whole and for every single check.

## Main definitions

* `Probe.Service` — the checks of the two endpoints.
* `Probe.Service.respond` — the answer to a request.
-/

namespace ControllerManager.Probe

/-- What a path of the probe server names. -/
inductive Target where
  | all (ready : Bool)
  | one (ready : Bool)
  deriving Repr, DecidableEq

/-- The checks of the two endpoints. -/
structure Service where
  healthz : Checks
  readyz : Checks

namespace Service

/-- The paths of the probe server. -/
def routes : Http.RouteTable Target :=
  let healthz := "/healthz".toList.map Http.RoutePart.literal
  let readyz := "/readyz".toList.map Http.RoutePart.literal
  let check := [Http.RoutePart.literal '/', .segment "name".toList]
  [(healthz, .all false), (healthz ++ check, .one false), (readyz, .all true),
   (readyz ++ check, .one true)]

/-- The checks of an endpoint. -/
def checks (s : Service) (ready : Bool) : Checks := if ready then s.readyz else s.healthz

/-- The name of an endpoint. -/
def endpoint (ready : Bool) : String := if ready then "readyz" else "healthz"

/-- The answer of a resource to a request that reads it. -/
def answer (s : Service) (target : Target) (captures : List (List Char)) : Http.Response :=
  match target with
  | .all ready =>
    let (status, text) := (s.checks ready).runAll (endpoint ready)
    .text status text
  | .one ready =>
    match Http.percentDecode? (captures.headD []) with
    | none => .text 400 "Invalid URL: Invalid UTF-8 in `name`"
    | some name =>
      let (status, text) := (s.checks ready).runOne (String.ofList name)
      .text status text

/-- The answer to a request. -/
def respond (s : Service) (request : Http.Request) : Http.Response :=
  match routes.lookup request.path with
  | none => .notFound
  | some (target, captures) => .forReading request.method (s.answer target captures)

end Service

end ControllerManager.Probe
