import ControllerManager.Net.Numeral

/-!
# Internet addresses

Addresses of four bytes and of eight groups, with their reading and printing. The printed form of
an address of eight groups leaves out the first of its longest runs of two or more zero groups,
and shows an embedded address of four bytes behind `::ffff:` in its own form.

## Main definitions

* `Net.Ip4`, `Net.Ip6` — the two kinds of addresses.
* `Net.Ip4.read?`, `Net.Ip6.read?` — an address at the head of a list of characters.
* `Net.Ip4.print`, `Net.Ip6.print` — the printed forms.
-/

namespace ControllerManager.Net

/-- An address of four bytes. -/
structure Ip4 where
  a : UInt8
  b : UInt8
  c : UInt8
  d : UInt8
  deriving Repr, DecidableEq

namespace Ip4

/-- The address that names every interface. -/
def unspecified : Ip4 := ⟨0, 0, 0, 0⟩

/-- The address of the machine itself. -/
def localhost : Ip4 := ⟨127, 0, 0, 1⟩

/-- The address at the head of a list, and what follows it. -/
def read? (cs : List Char) : Option (Ip4 × List Char) := do
  let (a, cs) ← Numeral.octet.read? cs
  let (b, cs) ← Numeral.octet.read? (← expect? '.' cs)
  let (c, cs) ← Numeral.octet.read? (← expect? '.' cs)
  let (d, cs) ← Numeral.octet.read? (← expect? '.' cs)
  return (⟨.ofNat a, .ofNat b, .ofNat c, .ofNat d⟩, cs)

/-- The printed form. -/
def print (ip : Ip4) : List Char :=
  Nat.toDigits 10 ip.a.toNat ++ ['.'] ++ Nat.toDigits 10 ip.b.toNat ++ ['.'] ++
    Nat.toDigits 10 ip.c.toNat ++ ['.'] ++ Nat.toDigits 10 ip.d.toNat

/-- The two groups that hold the address inside an address of eight groups. -/
def groups (ip : Ip4) : List UInt16 :=
  [.ofNat (ip.a.toNat * 256 + ip.b.toNat), .ofNat (ip.c.toNat * 256 + ip.d.toNat)]

/-- The address that two groups hold. -/
def ofGroups (g h : UInt16) : Ip4 :=
  ⟨.ofNat (g.toNat / 256), .ofNat (g.toNat % 256), .ofNat (h.toNat / 256), .ofNat (h.toNat % 256)⟩

end Ip4

/-- An address of eight groups. -/
structure Ip6 where
  groups : List UInt16
  length_groups : groups.length = 8
  deriving Repr, DecidableEq

namespace Ip6

/-- Up to `limit` groups at the head of a list, with a colon before each but the first, and
whether the last two of them were written as an address of four bytes. Such an address ends the
groups. -/
def readGroups (limit : Nat) (first : Bool) (cs : List Char) : List UInt16 × Bool × List Char :=
  match limit with
  | 0 => ([], false, cs)
  | limit + 1 =>
    let after := if first then some cs else expect? ':' cs
    match if limit = 0 then none else after.bind Ip4.read? with
    | some (ip, rest) => (ip.groups, true, rest)
    | none =>
      match after.bind Numeral.group.read? with
      | some (g, rest) =>
        let (gs, dotted, rest) := readGroups limit false rest
        (.ofNat g :: gs, dotted, rest)
      | none => ([], false, cs)

/-- The address of a list of groups, if they are eight. -/
def ofGroups? (gs : List UInt16) : Option Ip6 :=
  if h : gs.length = 8 then some ⟨gs, h⟩ else none

/-- The address at the head of a list, and what follows it. Fewer than eight groups need a `::`
in place of at least one zero group, and an address of four bytes may stand at the end only. -/
def read? (cs : List Char) : Option (Ip6 × List Char) :=
  match readGroups 8 true cs with
  | (head, dotted, rest) =>
    if head.length = 8 then (ofGroups? head).map (·, rest)
    else if dotted then none
    else do
      let rest ← expect? ':' (← expect? ':' rest)
      let (tail, _, rest) := readGroups (7 - head.length) true rest
      let zeros := List.replicate (8 - head.length - tail.length) 0
      return (← ofGroups? (head ++ zeros ++ tail), rest)

/-- The address of four bytes behind `::ffff:`. -/
def embedded? (ip : Ip6) : Option Ip4 :=
  match ip.groups with
  | [0, 0, 0, 0, 0, 0xffff, g, h] => some (Ip4.ofGroups g h)
  | _ => none

/-- A run of zero groups. -/
structure ZeroRun where
  start : Nat
  length : Nat
  deriving Repr, DecidableEq

/-- The first of the longest runs of zeros in the groups from index `i` on, where `current` is
the run that ends before `i` and `best` the first longest run so far. -/
def longestFrom (i : Nat) (current best : ZeroRun) : List UInt16 → ZeroRun
  | [] => best
  | g :: gs =>
    if g = 0 then
      let current : ZeroRun :=
        if current.length = 0 then ⟨i, 1⟩ else ⟨current.start, current.length + 1⟩
      longestFrom (i + 1) current (if best.length < current.length then current else best) gs
    else longestFrom (i + 1) ⟨0, 0⟩ best gs

/-- The first of the longest runs of zero groups. -/
def longestZeroRun (gs : List UInt16) : ZeroRun := longestFrom 0 ⟨0, 0⟩ ⟨0, 0⟩ gs

/-- Groups with colons between them. -/
def printGroups (gs : List UInt16) : List Char :=
  List.intercalate [':'] (gs.map fun g => Nat.toDigits 16 g.toNat)

/-- The printed form. -/
def print (ip : Ip6) : List Char :=
  match ip.embedded? with
  | some v4 => "::ffff:".toList ++ v4.print
  | none =>
    let run := longestZeroRun ip.groups
    if 1 < run.length then
      printGroups (ip.groups.take run.start) ++ [':', ':'] ++
        printGroups (ip.groups.drop (run.start + run.length))
    else printGroups ip.groups

end Ip6

end ControllerManager.Net
