import ControllerManager.Cluster.LeaseCall

/-!
# The store of a lease

How the API server keeps a lease. Every change has a version of its own, and a replacement is
accepted only if it names the version that it replaces.

## Main definitions

* `Cluster.LeaseStore` — the lease and the version of its last change.
* `Cluster.LeaseStore.handle` — the store after a request, and the answer.
-/

namespace ControllerManager.Cluster

/-- The lease and the version of its last change. -/
structure LeaseStore where
  lease : Option Lease
  /-- Contents beside the fields that electors know. -/
  extra : List (String × Json)
  version : Nat
  /-- Whether stored leases carry their version. -/
  versioned : Bool
  deriving Repr

namespace LeaseStore

/-- The store without a lease. -/
def empty : LeaseStore := ⟨none, [], 0, true⟩

/-- The version that the next change has. -/
def nextVersion (s : LeaseStore) : Option String :=
  if s.versioned then some (toString (s.version + 1)) else none

/-- The store after a change to `lease`. -/
def put (s : LeaseStore) (lease : Lease) (extra : List (String × Json)) : LeaseStore :=
  { s with
    lease := some { lease with resourceVersion := s.nextVersion }
    extra := extra
    version := s.version + 1 }

/-- A refusal with a status. -/
def refuse (status : Nat) : LeaseAnswer := .error (.refused (.ofStatus status))

/-- The answer that holds the stored lease. -/
def stored (s : LeaseStore) : LeaseAnswer :=
  match s.lease with
  | some lease => .ok lease
  | none => refuse 404

/-- The lease after a change of its contents. -/
def change (p : Lease.SpecPatch) (lease : Lease) : Lease :=
  { lease with spec := lease.spec.map p.apply }

/-- The store after a request, and the answer. -/
def handle (s : LeaseStore) (call : LeaseCall) : LeaseStore × LeaseAnswer :=
  match call with
  | .read => (s, s.stored)
  | .create lease =>
    match s.lease with
    | some _ => (s, refuse 409)
    | none =>
      let s := s.put lease []
      (s, s.stored)
  | .replace lease =>
    match s.lease with
    | none => (s, refuse 404)
    | some current =>
      if lease.resourceVersion ≠ current.resourceVersion then (s, refuse 409)
      else
        let s := s.put lease []
        (s, s.stored)
  | .patch p =>
    match s.lease with
    | none => (s, refuse 404)
    | some current =>
      let s := s.put (change p current) s.extra
      (s, s.stored)

/-- The store after a foreign change of the contents, unless there is no lease. -/
def update? (s : LeaseStore) (p : Lease.SpecPatch) : Option LeaseStore :=
  s.lease.map fun current => s.put (change p current) s.extra

/-- The store after the lease was deleted. -/
def delete (s : LeaseStore) : LeaseStore := { s with lease := none, extra := [] }

end LeaseStore

end ControllerManager.Cluster
