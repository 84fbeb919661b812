import ControllerManager.Cluster.Config
import ControllerManager.Cluster.Surface

/-!
# Topologies

Whether the manager works on the base cluster, or on the virtual workspace that an export
advertises. Only the question for the group of exports may fail without harm: then the base
cluster is meant. Where the group is served, the address of the workspace has to be found.

## Main definitions

* `Topology` — what the manager works on.
* `Topology.resolve` — the choice for a cluster.
* `Topology.resolveVirtualWorkspace` — the connection to the workspace of an export.
-/

namespace ControllerManager

/-- What the manager works on. -/
inductive Topology where
  | standalone
  /-- A virtual workspace, reached with the credentials of the base cluster. The host is the
  address as it was advertised. -/
  | virtualWorkspace (endpoint : Cluster.Config) (host : String)
  deriving Repr, DecidableEq

namespace Topology

/-- The name of a topology. -/
def name : Topology → String
  | .standalone => "standalone"
  | .virtualWorkspace _ _ => "virtual-workspace"

/-- Whether the manager works on a virtual workspace. -/
def isVirtualWorkspace : Topology → Bool
  | .standalone => false
  | .virtualWorkspace _ _ => true

/-- Why the address of a workspace was not found. -/
inductive Fault where
  | nameMissing
  | lookup (error : Error)
  | notFound
  | noWorkspace
  | invalidUrl (url : String) (fault : Net.UriFault)
  | notAbsolute (url : String)
  deriving Repr, DecidableEq

/-- The failure that a fault for an export means. -/
def Fault.toError (exportName : String) : Fault → Error
  | .nameMissing =>
    .configuration "--api-export-name is required when the apis.kcp.dev group is present"
  | .lookup error => .resolution exportName error.message
  | .notFound => .resolution exportName "APIExport not found"
  | .noWorkspace => .resolution exportName "status.virtualWorkspaces is empty"
  | .invalidUrl url fault =>
    .resolution exportName ("invalid URL " ++ Text.quoted url ++ ": " ++ fault.message)
  | .notAbsolute url =>
    .resolution exportName ("URL " ++ Text.quoted url ++ " must be absolute")

/-- The first of the advertised addresses, which is absolute, and its parts. -/
def firstUrl (lookup : Except Error (Option (List String))) : Except Fault (String × Net.Uri) :=
  match lookup with
  | .error error => .error (.lookup error)
  | .ok none => .error .notFound
  | .ok (some []) => .error .noWorkspace
  | .ok (some (url :: _)) =>
    match Net.Uri.parse url with
    | .error fault => .error (.invalidUrl url fault)
    | .ok uri =>
      if uri.scheme?.isNone || uri.host?.isNone then .error (.notAbsolute url) else .ok (url, uri)

variable {m : Type → Type} [Monad m]

/-- The address that an export advertises, and its parts. -/
def advertisedUrl (surface : Cluster.Surface m) (exportName : String) :
    m (Except Error (String × Net.Uri)) := do
  if exportName.isEmpty then return .error (Fault.toError exportName .nameMissing)
  else
    let lookup ← surface.workspaceUrls exportName
    return (firstUrl lookup).mapError (Fault.toError exportName)

/-- The connection to the workspace of an export: the base connection with another address. -/
def resolveVirtualWorkspace (surface : Cluster.Surface m) (base : Cluster.Config)
    (exportName : String) : m (Except Error Cluster.Config) := do
  return (← advertisedUrl surface exportName).map fun (_, uri) => { base with url := uri }

/-- The answer to the question for the group of exports, and the choice that follows. -/
structure Resolution where
  group : Except Error Bool
  result : Except Error Topology

/-- The choice of a topology, with what it rests on. -/
def resolution (surface : Cluster.Surface m) (base : Cluster.Config) (exportName : String) :
    m Resolution := do
  let group ← surface.hasGroup Cluster.exportGroup
  match group with
  | .ok true =>
    let found ← advertisedUrl surface exportName
    return ⟨group, found.map fun (host, uri) => .virtualWorkspace { base with url := uri } host⟩
  | _ => return ⟨group, .ok .standalone⟩

/-- The choice of a topology. -/
def resolve (surface : Cluster.Surface m) (base : Cluster.Config) (exportName : String) :
    m (Except Error Topology) :=
  Resolution.result <$> resolution surface base exportName

/-- Whether the cluster serves exports. A failure counts as no. -/
def detectExports (surface : Cluster.Surface m) : m Bool := do
  match ← surface.hasGroup Cluster.exportGroup with
  | .ok present => return present
  | .error _ => return false

end Topology

end ControllerManager
