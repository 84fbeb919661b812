import ControllerManager.Error
import ControllerManager.Text.Blank

/-!
# Identities and namespaces of electors

Under which name an elector holds a lease, and in which namespace the lease is.

## Main definitions

* `Election.Uuid` — sixteen random bytes in their written form.
* `Election.defaultIdentity` — the name of a process.
* `Election.pickNamespace` — the namespace of the lease.
-/

namespace ControllerManager.Election

/-- A number in base sixteen with at least `width` digits. -/
def hexText (width n : Nat) : List Char :=
  let digits := Nat.toDigits 16 n
  List.replicate (width - digits.length) '0' ++ digits

/-- A random identifier: 122 random bits, between them the mark of the version and of the
variant. -/
structure Uuid where
  bits : Nat
  deriving Repr, DecidableEq

/-- The written form: 8, 4, 4, 4 and 12 digits in base sixteen. -/
def Uuid.toText (u : Uuid) : String :=
  let low := u.bits % (1 <<< 62)
  let middle := (u.bits >>> 62) % (1 <<< 12)
  let high := (u.bits >>> 74) % (1 <<< 48)
  let variant := (1 <<< 63) + low
  String.ofList <|
    hexText 8 (high >>> 16) ++ '-' :: hexText 4 (high % (1 <<< 16)) ++
      '-' :: '4' :: hexText 3 middle ++ '-' :: hexText 4 (variant >>> 48) ++
      '-' :: hexText 12 (variant % (1 <<< 48))

/-- The name of the process where the machine has none. -/
def fallbackHost : String := "release-operator"

/-- The name of a process: the machine and a random identifier. -/
def defaultIdentity (hostname : Option String) (uuid : Uuid) : String :=
  let host := (hostname.filter (!·.isEmpty)).getD fallbackHost
  host ++ "_" ++ uuid.toText

/-- The namespace of the lease: the one that is asked for, or else the one that the process runs
in. Blanks at the ends do not count, and nothing but blanks is no namespace. -/
def pickNamespace (explicit inCluster : Option String) : Except Error String :=
  match ((explicit.or inCluster).map Text.trim).filter (!·.isEmpty) with
  | some ns => .ok ns
  | none =>
    .error (.construction "leader election"
      ("unable to find leader election namespace: not running in-cluster, " ++
        "please specify --leader-election-namespace"))

end ControllerManager.Election
