import ControllerManager.Cluster.LeaseStore

/-!
# A planned API server

An API server for rehearsals: it keeps one lease whatever the path of a request, and follows a
plan that says which requests fail and which are answered late.

## Main definitions

* `Simulation.Server` — the server with its plan.
* `Simulation.Server.respond` — the server after a request, and the answer.
-/

namespace ControllerManager.Simulation

open Cluster

/-- What the plan says about one request. -/
structure Planned where
  /-- The nanoseconds until the answer. -/
  delay : Nat
  /-- The status of a refusal. -/
  status : Option Nat
  deriving Repr, DecidableEq

/-- A server with a plan for the next requests. -/
structure Server where
  store : LeaseStore
  plan : List Planned
  /-- Whether every request is refused as unavailable. -/
  unavailable : Bool
  /-- Whether no request reaches the server. -/
  broken : Bool
  deriving Repr

namespace Server

/-- The nanoseconds until a request that comes now is answered. -/
def nextDelay (s : Server) : Nat := (s.plan.head?.map Planned.delay).getD 0

/-- The server after it answers a request, and the answer. -/
def respond (s : Server) (call : LeaseCall) : Server × LeaseAnswer :=
  let planned := s.plan.head?
  let s := { s with plan := s.plan.tail }
  if s.broken then (s, .error (.unreachable "connection refused"))
  else if s.unavailable then (s, LeaseStore.refuse 503)
  else
    match planned.bind Planned.status with
    | some status => (s, LeaseStore.refuse status)
    | none =>
      let (store, answer) := s.store.handle call
      ({ s with store := store }, answer)

end Server

end ControllerManager.Simulation
