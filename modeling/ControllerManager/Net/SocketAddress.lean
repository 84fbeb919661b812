import ControllerManager.Net.Ip

/-!
# Socket addresses

An address with a port: `1.2.3.4:80`, `[::1]:80`, or `[fe80::1%3]:80` with the number of a scope.

## Main definitions

* `Net.SocketAddress` — an address with a port.
* `Net.SocketAddress.parse?` — the address that a whole text denotes.
* `Net.SocketAddress.print` — the printed form.
* `Net.SocketAddress.conflicts` — whether two listeners exclude each other.
-/

namespace ControllerManager.Net

/-- An address with a port. -/
inductive SocketAddress where
  | v4 (ip : Ip4) (port : UInt16)
  | v6 (ip : Ip6) (scope : UInt32) (port : UInt16)
  deriving Repr, DecidableEq

namespace SocketAddress

/-- The port behind a colon. -/
def readPort? (cs : List Char) : Option (UInt16 × List Char) := do
  let (port, rest) ← Numeral.port.read? (← expect? ':' cs)
  return (.ofNat port, rest)

/-- The scope behind a percent sign, and zero where none is written. -/
def readScope (cs : List Char) : UInt32 × List Char :=
  match (expect? '%' cs).bind Numeral.scope.read? with
  | some (scope, rest) => (.ofNat scope, rest)
  | none => (0, cs)

/-- An address of four bytes with a port. -/
def read4? (cs : List Char) : Option (SocketAddress × List Char) := do
  let (ip, rest) ← Ip4.read? cs
  let (port, rest) ← readPort? rest
  return (v4 ip port, rest)

/-- An address of eight groups in brackets, with a port. -/
def read6? (cs : List Char) : Option (SocketAddress × List Char) := do
  let (ip, rest) ← Ip6.read? (← expect? '[' cs)
  let (scope, rest) := readScope rest
  let (port, rest) ← readPort? (← expect? ']' rest)
  return (v6 ip scope port, rest)

/-- The address that a whole text denotes. -/
def parse? (cs : List Char) : Option SocketAddress :=
  match (read4? cs).or (read6? cs) with
  | some (address, []) => some address
  | _ => none

/-- The printed form. A scope is shown unless it is zero. -/
def print : SocketAddress → List Char
  | v4 ip port => ip.print ++ [':'] ++ Nat.toDigits 10 port.toNat
  | v6 ip scope port =>
    let scope := if scope = 0 then [] else '%' :: Nat.toDigits 10 scope.toNat
    ['['] ++ ip.print ++ scope ++ [']', ':'] ++ Nat.toDigits 10 port.toNat

/-- The printed form as a text. -/
def toText (address : SocketAddress) : String := String.ofList address.print

/-- The port. -/
def port : SocketAddress → UInt16
  | v4 _ port | v6 _ _ port => port

/-- The eight groups of the address, among which an address of four bytes is embedded. -/
def groups : SocketAddress → List UInt16
  | v4 ip _ => [0, 0, 0, 0, 0, 0xffff] ++ ip.groups
  | v6 ip _ _ => ip.groups

/-- Whether groups are an embedded address of four bytes. -/
def isEmbedded (groups : List UInt16) : Bool := groups.take 6 == [0, 0, 0, 0, 0, 0xffff]

/-- Whether groups name every interface of some kind. -/
def isUnspecified (groups : List UInt16) : Bool :=
  groups == List.replicate 8 0 || (isEmbedded groups && groups.drop 6 == [0, 0])

/-- Whether what is sent to the groups `b` arrives at the groups `a`. -/
def includes (a b : List UInt16) : Bool :=
  a == b || a == List.replicate 8 0 || (isUnspecified a && isEmbedded a && isEmbedded b)

/-- Whether two listeners cannot have the two addresses at the same time. A port of zero stands for
one that is free. -/
def conflicts (a b : SocketAddress) : Bool :=
  a.port = b.port && a.port ≠ 0 && (includes a.groups b.groups || includes b.groups a.groups)

/-- Whether an address is that of the machine itself, whatever it is connected to. -/
def isOwn (a : SocketAddress) : Bool :=
  let g := a.groups
  isUnspecified g || g == [0, 0, 0, 0, 0, 0, 0, 1] ||
    (isEmbedded g && (g.drop 6).head?.any fun high => high.toNat / 256 == 127)

end SocketAddress

end ControllerManager.Net
