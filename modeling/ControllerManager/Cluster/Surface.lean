import ControllerManager.Admission.Object
import ControllerManager.Cluster.Exchange
import ControllerManager.Error

/-!
# The surface of a cluster

The two questions that the start of the manager asks the base cluster: whether it serves a group
of resources, and which addresses an export of resources advertises.

## Main definitions

* `Cluster.Surface` — the answers to the two questions.
* `Cluster.advertisedUrls` — the addresses in an export.
* `Cluster.listingShape` — how a listing of groups is written.
* `Cluster.Surface.ofExchange` — the surface of a cluster behind an API server.
-/

namespace ControllerManager.Cluster

open Admission

/-- The answers to the two questions, which may take effects in `m`. -/
structure Surface (m : Type → Type) where
  /-- Whether the cluster serves the group. -/
  hasGroup : String → m (Except Error Bool)
  /-- The addresses that an export advertises, and nothing if there is no such export. -/
  workspaceUrls : String → m (Except Error (Option (List String)))

/-- The group of resources by which exports are served. -/
def exportGroup : String := "apis.kcp.dev"

/-- The path of the exports. -/
def exportCollection : String := "/apis/" ++ exportGroup ++ "/v1alpha1/apiexports"

/-- The addresses in an export: the texts under `url` in the entries of
`status.virtualWorkspaces`. -/
def advertisedUrls (body : Json) : List String :=
  match ((body.get? "status").bind (·.get? "virtualWorkspaces")).bind Json.items? with
  | some entries => entries.filterMap fun entry => (entry.get? "url").bind Json.str?
  | none => []

/-- The shape of two texts, each of which may be missing. -/
def pairShape (first second : String) : Json.Shape :=
  .record .keyed [field first optionalText, field second optionalText] .ignored

/-- The shape of a group of resources. -/
def groupShape : Json.Shape :=
  let version := pairShape "groupVersion" "version"
  .record .keyed
    [field "apiVersion" (.word "v1"), field "kind" (.word "APIGroup"), field "name" optionalText,
     field "preferredVersion" (.optional version),
     field "serverAddressByClientCIDRs"
       (.optional (.list (pairShape "clientCIDR" "serverAddress"))),
     field "versions" (.optional (.list version))] .ignored

/-- The shape of a listing of groups. -/
def listingShape : Json.Shape :=
  .record .keyed
    [field "apiVersion" (.word "v1"), field "kind" (.word "APIGroupList"),
     field "groups" (.optional (.list groupShape))] .ignored

/-- The names of the groups in a listing. A group without a name has the empty one. -/
def groupNames (listing : Json) : List String :=
  (((listing.get? "groups").bind Json.items?).getD []).map fun group =>
    ((group.get? "name").bind Json.str?).getD ""

/-- What comes of asking for the resource at a path: an answer, or why none came. -/
abbrev Exchange (m : Type → Type) := Target → m (Except Fault Answer)

namespace Surface

variable {m : Type → Type} [Monad m]

/-- The value of a shape at a path. -/
def get (exchange : Exchange m) (shape : Json.Shape) (target : Target) :
    m (Except Fault Json) := do
  match ← exchange target with
  | .ok answer => return answer.read shape
  | .error fault => return .error fault

/-- The path of an export, unless it is no address. -/
def exportTarget (name : String) : Except Fault Target := do
  requireName name
  Target.parse (exportCollection ++ "/" ++ name)

/-- The surface of a cluster behind an API server. -/
def ofExchange (exchange : Exchange m) : Surface m where
  hasGroup group := do
    match ← get exchange listingShape "/apis" with
    | .ok listing => return .ok ((groupNames listing).contains group)
    | .error fault => return .error (.discovery fault.message)
  workspaceUrls name := do
    match exportTarget name with
    | .error fault => return .error (.kube fault)
    | .ok target =>
      match ← get exchange Object.shape target with
      | .ok body => return .ok (some (advertisedUrls body))
      | .error fault =>
        if fault.isNotFound then return .ok none else return .error (.kube fault)

end Surface

end ControllerManager.Cluster
