import ControllerManager.Cluster.Exchange
import ControllerManager.Lease.Basic
import ControllerManager.Lease.Calendar

/-!
# Requests for leases

The four requests that electors make, with their paths and bodies.

## Main definitions

* `Cluster.LeaseCall` — a request.
* `Cluster.LeaseCall.target` — its path.
* `Cluster.LeaseCall.body` — its body.
-/

namespace ControllerManager

/-- A member of an object, where there is a value. -/
def Json.optionalMember (key : String) (value : Option Json) : List (String × Json) :=
  value.toList.map (key, ·)

namespace Lease

/-- The contents as an object, with the written form of instants. -/
def Spec.toJson (showInstant : Instant → Json) (s : Spec) : Json :=
  .obj <|
    Json.optionalMember "acquireTime" (s.acquireTime.map showInstant) ++
      Json.optionalMember "holderIdentity" (s.holder.map Json.str) ++
      Json.optionalMember "leaseDurationSeconds"
        (s.durationSeconds.map fun n => Json.int n.toInt) ++
      Json.optionalMember "leaseTransitions" (s.transitions.map fun n => Json.int n.toInt) ++
      Json.optionalMember "preferredHolder" (s.preferredHolder.map Json.str) ++
      Json.optionalMember "renewTime" (s.renewTime.map showInstant) ++
      Json.optionalMember "strategy" (s.strategy.map Json.str)

/-- A lease as an object, with the written form of instants. -/
def toJson (showInstant : Instant → Json) (l : Lease) : Json :=
  let labels := l.labels.map fun ls => Json.obj (ls.map fun (k, v) => (k, .str v))
  let metadata := Json.obj <|
    Json.optionalMember "labels" labels ++ Json.optionalMember "name" (l.name.map Json.str) ++
      Json.optionalMember "namespace" (l.namespaceName.map Json.str) ++
      Json.optionalMember "resourceVersion" (l.resourceVersion.map Json.str)
  .obj <|
    [("apiVersion", .str "coordination.k8s.io/v1"), ("kind", .str "Lease"),
     ("metadata", metadata)] ++ Json.optionalMember "spec" (l.spec.map (Spec.toJson showInstant))

/-- A change of a field as a member, where there is one: null removes the field. -/
def changeMember {α : Type} (key : String) (f : α → Json) : Option (Option α) → List (String × Json)
  | none => []
  | some none => [(key, .null)]
  | some (some a) => [(key, f a)]

/-- A change of the contents as an object, with the written form of instants. -/
def SpecPatch.toJson (showInstant : Instant → Json) (p : SpecPatch) : Json :=
  .obj <|
    changeMember "acquireTime" showInstant p.acquireTime ++
      changeMember "holderIdentity" Json.str p.holder ++
      changeMember "leaseDurationSeconds" (fun n => Json.int n.toInt) p.durationSeconds ++
      changeMember "leaseTransitions" (fun n => Json.int n.toInt) p.transitions ++
      changeMember "preferredHolder" Json.str p.preferredHolder ++
      changeMember "renewTime" showInstant p.renewTime ++
      changeMember "strategy" Json.str p.strategy

end Lease

namespace Cluster

/-- A request for a lease. -/
inductive LeaseCall where
  | read
  | create (lease : Lease)
  | replace (lease : Lease)
  | patch (change : Lease.SpecPatch)
  deriving Repr, DecidableEq

namespace LeaseCall

/-- The method of a request. -/
def method : LeaseCall → String
  | read => "GET"
  | create _ => "POST"
  | replace _ => "PUT"
  | patch _ => "PATCH"

/-- The name under which changes are made. -/
def fieldManager : String := "release-operator"

/-- The path of the leases of a namespace. -/
def collection (namespaceName : String) : String :=
  "/apis/coordination.k8s.io/v1/namespaces/" ++ namespaceName ++ "/leases"

/-- The path of a request for the lease of that name, unless the request cannot be made. -/
def target (namespaceName leaseName : String) (call : LeaseCall) : Except Fault Target :=
  let leases := collection namespaceName
  match call with
  | create _ => Target.parse (leases ++ "?")
  | read => do
    requireName leaseName
    Target.parse (leases ++ "/" ++ leaseName)
  | replace _ => do
    requireName leaseName
    Target.parse (leases ++ "/" ++ leaseName ++ "?")
  | patch _ => do
    requireName leaseName
    Target.parse (leases ++ "/" ++ leaseName ++ "?&fieldManager=" ++ fieldManager)

/-- The body of a request, with the written form of instants. -/
def body (showInstant : Lease.Instant → Json) : LeaseCall → Option Json
  | read => none
  | create lease => some (lease.toJson showInstant)
  | replace lease => some (lease.toJson showInstant)
  | patch change => some (.obj [("spec", change.toJson showInstant)])

end LeaseCall

/-- An answer to a request for a lease. -/
abbrev LeaseAnswer := Except Fault Lease

end Cluster

end ControllerManager
