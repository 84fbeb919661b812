import ControllerManager.Manager.Basic
import ControllerManager.Text.Armor

/-!
# Where a manager runs

The machine around a manager decides which of its servers can start: whether their addresses are
free, and whether the certificate of the webhook server can be read.

## Main definitions

* `Manager.Site` — the machine.
* `Manager.ServerName` — the servers of a manager.
* `Manager.bindFailure?`, `Manager.webhookFailure?` — why a server cannot start.
-/

namespace ControllerManager.Manager

/-- The state of a directory with the serving certificate. -/
inductive Certificates where
  | missing
  /-- The files are there, but do not hold what they should. -/
  | malformed
  | usable
  deriving Repr, DecidableEq

/-- The state of a directory whose two files have these bytes, as far as they are there. -/
def Certificates.ofFiles (certificate key : Option (List UInt8)) : Certificates :=
  let holdsBlock (bytes : List UInt8) : Bool :=
    ((Text.Armor.blocks? (Text.Utf8.lossy bytes)).map (!·.isEmpty)).getD false
  match certificate, key with
  | some certificate, some key =>
    if holdsBlock certificate && holdsBlock key then .usable else .malformed
  | _, _ => .missing

/-- The machine around a manager. -/
structure Site where
  /-- The addresses on which somebody listens. -/
  occupied : List Net.SocketAddress
  /-- The addresses of the machine. -/
  has : Net.SocketAddress → Bool
  certificates : String → Certificates

/-- A machine that is connected to nothing. -/
def Site.isolated (occupied : List Net.SocketAddress) (certificates : String → Certificates) :
    Site :=
  ⟨occupied, Net.SocketAddress.isOwn, certificates⟩

/-- The machine on which one more listener has its address. -/
def Site.occupy (site : Site) (address : Net.SocketAddress) : Site :=
  { site with occupied := address :: site.occupied }

/-- The servers of a manager. -/
inductive ServerName where
  | health
  | metrics
  | webhook
  deriving Repr, DecidableEq

/-- The word for a server. -/
def ServerName.word : ServerName → String
  | .health => "health"
  | .metrics => "metrics"
  | .webhook => "webhook"

/-- The file with the serving certificate. -/
def certificateFile : String := "tls.crt"

/-- The file with the key of the serving certificate. -/
def keyFile : String := "tls.key"

/-- The path of a file in a directory. -/
def pathIn (directory file : String) : String :=
  if directory.toList.getLast? = some '/' then directory ++ file else directory ++ "/" ++ file

/-- The words of the machine for an address that it does not have. -/
def foreignAddress : String := "Cannot assign requested address (os error 99)"

/-- The words of the machine for an address that is in use. -/
def addressInUse : String := "Address already in use (os error 98)"

/-- Why nobody can listen at an address. -/
def Site.refusal? (site : Site) (address : Net.SocketAddress) : Option String :=
  if !site.has address then some foreignAddress
  else if site.occupied.any address.conflicts then some addressInUse
  else none

/-- Why a plain server cannot listen at an address. -/
def bindFailure? (site : Site) (server : ServerName) (address : Net.SocketAddress) :
    Option Error :=
  (site.refusal? address).map fun words =>
    .runtime
      ("unable to bind " ++ server.word ++ " server on " ++ address.toText ++ ": " ++ words)

/-- What is wrong with the certificate in a directory. -/
def certificateFault? (directory : String) : Certificates → Option String
  | .missing =>
    some ("failed to read from file `" ++ pathIn directory certificateFile ++
      "`: No such file or directory (os error 2)")
  | .malformed => some "private key format not supported"
  | .usable => none

/-- Why the webhook server of a manager cannot start. -/
def webhookFailure? (site : Site) (m : Manager) : Option Error :=
  match certificateFault? m.webhookCertDir (site.certificates m.webhookCertDir) with
  | some fault =>
    some (.runtime
      ("unable to load webhook serving certificate from " ++ m.webhookCertDir ++ ": " ++ fault))
  | none =>
    (site.refusal? m.webhookAddress).map fun words => .runtime ("webhook server: " ++ words)

end ControllerManager.Manager
