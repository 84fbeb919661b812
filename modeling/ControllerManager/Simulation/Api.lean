import ControllerManager.Cluster.Surface
import ControllerManager.Simulation.Server

/-!
# A planned cluster surface

An API server for rehearsals that lists groups of resources and serves exports. It follows a plan
of failures, or gives prepared answers one after the other.

## Main definitions

* `Simulation.Api` — the server with its plan.
* `Simulation.Api.exchange` — the requests to it.
-/

namespace ControllerManager.Simulation

open Cluster

/-- A server that lists groups and serves exports. -/
structure Api where
  /-- The names of the groups, unless the listing fails. -/
  groups : Option (List String)
  /-- The statuses of the exports by name. -/
  exports : List (String × Json)
  plan : List Planned
  unavailable : Bool
  broken : Bool
  /-- Answers that are given in order instead. -/
  prepared : Option (List Answer)
  /-- The requests so far, the last one first. -/
  requests : List Target

namespace Api

/-- The error object of a status. -/
def statusObject (status : Nat) : Json :=
  let reason := reasonOf status
  .obj
    [("apiVersion", .str "v1"), ("code", .int status), ("kind", .str "Status"),
     ("message", .str reason), ("metadata", .obj []), ("reason", .str reason),
     ("status", .str "Failure")]

/-- The answer of a failure. -/
def failure (status : Nat) : Answer := ⟨status, (statusObject status).toText⟩

/-- The path of a target, without its query. -/
def pathOf (target : Target) : String := String.ofList (target.toList.takeWhile (· != '?'))

/-- The answer to a request where nothing is planned. -/
def normal (api : Api) (target : Target) : Answer :=
  let path := pathOf target
  if path == "/apis" then
    match api.groups with
    | none => failure 500
    | some names =>
      let groups := names.map fun name => Json.obj [("name", .str name), ("versions", .arr [])]
      ⟨200, (Json.obj [("groups", .arr groups)]).toText⟩
  else
    match api.exports.find? fun e => exportCollection ++ "/" ++ e.1 == path with
    | some (name, status) =>
      ⟨200, (Json.obj [("metadata", .obj [("name", .str name)]), ("status", status)]).toText⟩
    | none => failure 404

/-- The server after a request, and what comes of it. -/
def respond (api : Api) (target : Target) : Except Fault Answer × Api :=
  let api := { api with requests := target :: api.requests }
  if api.broken then (.error (.unreachable "connection refused"), api)
  else
    match api.prepared with
    | some (answer :: rest) => (.ok answer, { api with prepared := some rest })
    | some [] => (.ok (failure 500), api)
    | none =>
      let planned := api.plan.head?.bind Planned.status
      let api := { api with plan := api.plan.tail }
      if api.unavailable then (.ok (failure 503), api)
      else
        match planned with
        | some status => (.ok (failure status), api)
        | none => (.ok (api.normal target), api)

/-- The requests to the server. -/
def exchange : Exchange (StateM Api) := fun target => modifyGet fun api => api.respond target

end Api

end ControllerManager.Simulation
