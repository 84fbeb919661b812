import ControllerManager.Net.Uri

/-!
# Cluster connections

How a cluster is reached: the address of its API server, the namespace that is meant where none is
named, and the certificates that are trusted.

## Main definitions

* `Cluster.Config` — a connection.
* `Cluster.isCertificate` — whether bytes have the form of a certificate.
-/

namespace ControllerManager.Cluster

/-- A connection to a cluster. -/
structure Config where
  url : Net.Uri
  defaultNamespace : String
  /-- The bytes of the certificates that are trusted. -/
  rootCertificates : List (List UInt8)
  deriving Repr, DecidableEq

/-- The namespace that is meant where none is named and none configured. -/
def standardNamespace : String := "default"

/-- A connection to an address, without certificates. -/
def Config.ofUrl (url : Net.Uri) : Config := ⟨url, standardNamespace, []⟩

/-- The contents of an element with the tag `tag` at the head of a list of bytes, and what follows
the element. The length takes one byte, or a count and up to four bytes. -/
def element? (tag : UInt8) (bytes : List UInt8) : Option (List UInt8 × List UInt8) :=
  match bytes with
  | t :: l :: rest =>
    if t ≠ tag then none
    else
      let count := l.toNat - 128
      let (length, rest) : Nat × List UInt8 :=
        if l.toNat < 128 then (l.toNat, rest)
        else ((rest.take count).foldl (fun n b => n * 256 + b.toNat) 0, rest.drop count)
      if (128 ≤ l.toNat ∧ (count = 0 ∨ 4 < count)) ∨ rest.length < length then none
      else some (rest.take length, rest.drop length)
  | _ => none

/-- Whether bytes have the form of a certificate: a sequence of a sequence that is signed, the
sequence that names the algorithm, and the bits of the signature. -/
def isCertificate (bytes : List UInt8) : Bool :=
  match (do
    let (outer, rest) ← element? 0x30 bytes
    let (signed, inner) ← element? 0x30 outer
    let (_, inner) ← element? 0x30 inner
    let (_, last) ← element? 0x03 inner
    return rest.isEmpty && last.isEmpty && !signed.isEmpty : Option Bool) with
  | some b => b
  | none => false

/-- The description of a connection whose certificates cannot be used. -/
def invalidCertificate : String :=
  "rustls tls error: failed to add a root certificate: invalid peer certificate: BadEncoding"

/-- A connection whose client can be built. -/
def Config.check (c : Config) : Except String Unit :=
  if c.rootCertificates.all isCertificate then .ok () else .error invalidCertificate

end ControllerManager.Cluster
