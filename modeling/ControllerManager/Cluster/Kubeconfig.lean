import ControllerManager.Cluster.Config
import ControllerManager.Json.Flow
import ControllerManager.Text.Armor
import ControllerManager.Text.Quoted

/-!
# Kubeconfigs

A document with named clusters, users and contexts, of which the current context names the cluster
and the user of a connection.

## Main definitions

* `Cluster.Kubeconfig` — the names and addresses of a document.
* `Cluster.Kubeconfig.connection` — the connection of its current context.
-/

namespace ControllerManager.Cluster

/-- The files that a document can name, with their bytes. -/
abbrev Files := String → Option (List UInt8)

/-- Where the certificates of a cluster are. -/
structure Kubeconfig.Authority where
  /-- Armored bytes in base 64, which come before a file. -/
  data : Option String
  file : Option String
  deriving Repr, DecidableEq

/-- What is known of a cluster. -/
structure Kubeconfig.Endpoint where
  server : Option String
  authority : Authority
  deriving Repr, DecidableEq

/-- The cluster, the user and the namespace that belong together. -/
structure Kubeconfig.Context where
  cluster : String
  user : Option String
  namespaceName : Option String
  deriving Repr, DecidableEq

/-- The parts of a document. -/
structure Kubeconfig where
  currentContext : Option String
  contexts : List (String × Kubeconfig.Context)
  clusters : List (String × Kubeconfig.Endpoint)
  users : List String
  deriving Repr, DecidableEq

namespace Kubeconfig

/-- Why a document gives no connection. -/
inductive Fault where
  | unreadable (path : String)
  | malformed
  | noCurrentContext
  | unknownContext (name : String)
  | unknownCluster (name : String)
  | unknownUser (name : String)
  | noServer
  | invalidServer (fault : Net.UriFault)
  | unreadableAuthority
  | damagedAuthority
  deriving Repr, DecidableEq

/-- The wording of a fault. -/
def Fault.message : Fault → String
  | unreadable path =>
    "failed to read kubeconfig from '" ++ Text.quoted path ++
      "': No such file or directory (os error 2)"
  | malformed => "failed to parse kubeconfig YAML"
  | noCurrentContext => "failed to determine current context"
  | unknownContext name => "failed to load current context: " ++ name
  | unknownCluster name => "failed to load the cluster of context: " ++ name
  | unknownUser name => "failed to find named user: " ++ name
  | noServer => "cluster url is missing on selected cluster"
  | invalidServer fault => "failed to parse cluster url: " ++ fault.message
  | unreadableAuthority => "failed to load certificate authority"
  | damagedAuthority => "failed to parse PEM-encoded certificates: malformed framing"

/-- The text of a member. -/
def textOf (j : Json) (key : String) : Option String := (j.get? key).bind Json.str?

/-- The named entries under `key`, each with what `read` makes of its member `inner`. An entry
without that member is left out. -/
def entriesOf {α : Type} (j : Json) (key inner : String) (read : Json → α) : List (String × α) :=
  (((j.get? key).bind Json.items?).getD []).filterMap fun entry =>
    match textOf entry "name", entry.get? inner with
    | some name, some value => some (name, read value)
    | _, _ => none

/-- The parts of a document. -/
def ofJson (j : Json) : Kubeconfig where
  currentContext := textOf j "current-context"
  contexts := entriesOf j "contexts" "context" fun c =>
    ⟨(textOf c "cluster").getD "", textOf c "user", textOf c "namespace"⟩
  clusters := entriesOf j "clusters" "cluster" fun c =>
    ⟨textOf c "server", ⟨textOf c "certificate-authority-data", textOf c "certificate-authority"⟩⟩
  users := (entriesOf j "users" "user" fun _ => ()).map (·.1)

/-- What is named in a list of named entries. -/
def lookup? {α : Type} (entries : List (String × α)) (name : String) : Option α :=
  (entries.find? (·.1 == name)).map (·.2)

/-- The certificates in armored bytes. -/
def certificatesOf (bytes : List UInt8) : Except Fault (List (List UInt8)) :=
  match Text.Armor.blocks? (Text.Utf8.lossy bytes) with
  | some blocks => .ok ((blocks.filter (·.label == "CERTIFICATE")).map (·.bytes))
  | none => .error .damagedAuthority

/-- The certificates of an authority. -/
def Authority.certificates (a : Authority) (files : Files) : Except Fault (List (List UInt8)) :=
  match a.data, a.file with
  | some data, _ =>
    match Text.Base64.decode? data with
    | some bytes => certificatesOf bytes
    | none => .error .unreadableAuthority
  | none, some path =>
    match files path with
    | some bytes => certificatesOf bytes
    | none => .error .unreadableAuthority
  | none, none => .ok []

/-- The address of a cluster. -/
def Endpoint.url (e : Endpoint) : Except Fault Net.Uri :=
  match e.server with
  | none => .error .noServer
  | some server => (Net.Uri.parse server).mapError .invalidServer

/-- The current context. -/
def context (k : Kubeconfig) : Except Fault Context :=
  match k.currentContext with
  | none => .error .noCurrentContext
  | some name =>
    match lookup? k.contexts name with
    | some context => .ok context
    | none => .error (.unknownContext name)

/-- The cluster of a context. -/
def endpoint (k : Kubeconfig) (c : Context) : Except Fault Endpoint :=
  match lookup? k.clusters c.cluster with
  | some endpoint => .ok endpoint
  | none => .error (.unknownCluster c.cluster)

/-- Whether the user of a context is known, where one is named. -/
def checkUser (k : Kubeconfig) (c : Context) : Except Fault Unit :=
  match c.user with
  | some user => if k.users.contains user then .ok () else .error (.unknownUser user)
  | none => .ok ()

/-- The connection of the current context. -/
def connection (k : Kubeconfig) (files : Files) : Except Fault Config := do
  let context ← k.context
  let endpoint ← k.endpoint context
  k.checkUser context
  let url ← endpoint.url
  let certificates ← endpoint.authority.certificates files
  return ⟨url, context.namespaceName.getD standardNamespace, certificates⟩

/-- The connection that a text gives. -/
def read (files : Files) (text : String) : Except Fault Config :=
  match Json.Flow.parse? text with
  | some j => (ofJson j).connection files
  | none => .error .malformed

/-- The files that a text names. -/
def files (text : String) : List String :=
  match Json.Flow.parse? text with
  | some j => (ofJson j).clusters.filterMap fun (_, endpoint) => endpoint.authority.file
  | none => []

end Kubeconfig

end ControllerManager.Cluster
