import ControllerManager.Cluster.Kubeconfig
import ControllerManager.Environment
import ControllerManager.Text.Decimal

/-!
# The connection of the process

It is the one of a kubeconfig, or else the one that a process inside of a cluster has: the address
stands in two variables, the namespace and the certificates in files that the cluster provides.

## Main definitions

* `Cluster.Inside` — the connection of a process inside of a cluster.
* `Cluster.infer` — the connection of the process.
-/

namespace ControllerManager.Cluster

namespace Inside

/-- The variable with the name of the machine. -/
def hostVariable : String := "KUBERNETES_SERVICE_HOST"

/-- The variable with the port. -/
def portVariable : String := "KUBERNETES_SERVICE_PORT"

/-- The file with the namespace. -/
def namespaceFile : String := "/var/run/secrets/kubernetes.io/serviceaccount/namespace"

/-- The file with the certificates. -/
def certificateFile : String := "/var/run/secrets/kubernetes.io/serviceaccount/ca.crt"

/-- Why there is no connection from the inside. -/
inductive Fault where
  | unset
  | unreadable (bytes : List UInt8)
  | invalidPort (fault : Text.NumberFault)
  | invalidUrl (fault : Net.UriFault)
  | noNamespace
  | noCertificates
  | damagedCertificates
  deriving Repr, DecidableEq

/-- The words of the machine for a file that is not there. -/
def missingFile : String := "No such file or directory (os error 2)"

/-- The wording of a fault. -/
def Fault.message : Fault → String
  | unset => "failed to read an incluster environment variable: environment variable not found"
  | unreadable bytes =>
    "failed to read an incluster environment variable: " ++ Environment.unreadableMessage bytes
  | invalidPort fault => "failed to parse cluster port: " ++ fault.message
  | invalidUrl fault => "failed to parse cluster url: " ++ fault.message
  | noNamespace => "failed to read the default namespace: " ++ missingFile
  | noCertificates => "failed to read a certificate bundle: " ++ missingFile
  | damagedCertificates => "failed to parse PEM-encoded certificates: malformed framing"

/-- The text of a variable. -/
def variableOf (env : Environment.Source) (key : String) : Except Fault String :=
  match env key with
  | .text value => .ok value
  | .unset => .error .unset
  | .unreadable bytes => .error (.unreadable bytes)

/-- The least number that is no port. -/
def portBound : Nat := 1 <<< 16

/-- The address of a machine and a port. A machine whose name has colons stands in brackets, and
the usual port is left out. -/
def urlText (host : String) (port : Nat) : String :=
  let host := if host.toList.contains ':' then "[" ++ host ++ "]" else host
  if port = 443 then "https://" ++ host else "https://" ++ host ++ ":" ++ toString port

/-- The connection of a process inside of a cluster. -/
def connection (env : Environment.Source) (files : Files) : Except Fault Config := do
  let host ← variableOf env hostVariable
  let port ← variableOf env portVariable
  let port ← (Text.readNumber portBound port.toList).mapError .invalidPort
  let url ← (Net.Uri.parse (urlText host port)).mapError .invalidUrl
  let some ns := files namespaceFile | .error .noNamespace
  let some bytes := files certificateFile | .error .noCertificates
  match Kubeconfig.certificatesOf bytes with
  | .ok certificates => return ⟨url, String.ofList (Text.Utf8.lossy ns), certificates⟩
  | .error _ => .error .damagedCertificates

end Inside

/-- The connection of the process, which has a kubeconfig at a path, with its text if there is such
a file. -/
def infer (env : Environment.Source) (files : Files) (path : String) (text : Option String) :
    Except String Config :=
  let fromFile : Except Kubeconfig.Fault Config :=
    match text with
    | some text => Kubeconfig.read files text
    | none => .error (.unreadable path)
  match fromFile with
  | .ok config => .ok config
  | .error fault =>
    match Inside.connection env files with
    | .ok config => .ok config
    | .error inside =>
      .error ("failed to infer config: in-cluster: (" ++ inside.message ++ "), kubeconfig: (" ++
        fault.message ++ ")")

end ControllerManager.Cluster
