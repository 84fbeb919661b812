/-!
# Numerals inside addresses

The fields of a network address are numerals with a base, a range and a form of their own. A
field takes every digit that stands there, and is refused as a whole if they are too many or
their value is out of range.

## Main definitions

* `Net.Numeral` — the form of one kind of field.
* `Net.Numeral.read?` — the field at the head of a list of characters.
* `Net.expect?` — a fixed character at the head of a list.
-/

namespace ControllerManager.Net

/-- The value of a digit in a base of at most sixteen. -/
def digitValue? (base : Nat) (c : Char) : Option Nat :=
  let v :=
    if '0' ≤ c && c ≤ '9' then c.toNat - 48
    else if 'a' ≤ c && c ≤ 'f' then c.toNat - 87
    else if 'A' ≤ c && c ≤ 'F' then c.toNat - 55
    else 16
  if v < base then some v else none

/-- The form of one kind of numeral. -/
structure Numeral where
  base : Nat
  /-- The most digits that may stand there. -/
  maxDigits : Option Nat
  /-- Whether a numeral of several digits may start with a zero. -/
  leadingZero : Bool
  /-- The least value that is out of range. -/
  bound : Nat
  deriving Repr, DecidableEq

namespace Numeral

/-- A byte of an address with four bytes. -/
def octet : Numeral := ⟨10, some 3, false, 1 <<< 8⟩

/-- A group of an address with eight groups. -/
def group : Numeral := ⟨16, some 4, true, 1 <<< 16⟩

/-- A port. -/
def port : Numeral := ⟨10, none, true, 1 <<< 16⟩

/-- The number of a scope. -/
def scope : Numeral := ⟨10, none, true, 1 <<< 32⟩

/-- The digits at the head of a list. -/
def digits (n : Numeral) (cs : List Char) : List Char :=
  cs.takeWhile fun c => (digitValue? n.base c).isSome

/-- The value of a list of digits. -/
def value (n : Numeral) (ds : List Char) : Nat :=
  ds.foldl (fun v d => v * n.base + (digitValue? n.base d).getD 0) 0

/-- Whether a list of digits has the form of the numeral. -/
def admits (n : Numeral) (ds : List Char) : Bool :=
  !ds.isEmpty && n.maxDigits.all (ds.length ≤ ·) &&
    (n.leadingZero || ds.length == 1 || ds.head? != some '0') && n.value ds < n.bound

/-- The numeral at the head of a list, and what follows it. -/
def read? (n : Numeral) (cs : List Char) : Option (Nat × List Char) :=
  let ds := n.digits cs
  if n.admits ds then some (n.value ds, cs.drop ds.length) else none

end Numeral

/-- What follows the character `c` at the head of a list. -/
def expect? (c : Char) : List Char → Option (List Char)
  | [] => none
  | d :: cs => if d = c then some cs else none

end ControllerManager.Net
