import ControllerManager.Json.Basic
import ControllerManager.Text.Decimal

/-!
# Reading of JSON numbers

A number without a fraction and a power is a whole number if it fits into 64 binary digits. Every
other number is a binary fraction: its leading digits, as many as fit into 64 binary digits, are
rounded to one, and so is the product with the power of ten.

## Main definitions

* `Json.Literal` — the parts of a written number.
* `Json.Literal.number?` — the value, unless it is out of range.
-/

namespace ControllerManager.Json

/-- The parts of a written number. -/
structure Literal where
  negative : Bool
  /-- The digits before the point. -/
  wholeDigits : List Char
  /-- The digits behind the point, where there is one. -/
  fractionDigits : Option (List Char)
  /-- The power of ten, where there is one. -/
  power : Option Int
  deriving Repr, DecidableEq

/-- The least number that does not fit into 64 binary digits. -/
def wordBound : Nat := 1 <<< 64

/-- The value of the leading digits that fit into 64 binary digits, after `value`, and how many
digits that are. -/
def leadingValue (value : Nat) : List Char → Nat × Nat
  | [] => (value, 0)
  | c :: cs =>
    let next := value * 10 + (Text.digit? c).getD 0
    if next < wordBound then
      let (v, n) := leadingValue next cs
      (v, n + 1)
    else (value, 0)

/-- The product or quotient of two binary fractions. -/
def combine? (times : Bool) (a b : Decimal.Binary) : Option Decimal.Binary :=
  let (n, d) := a.fraction
  let (m, e) := b.fraction
  if times then Decimal.Binary.nearest? (n * m) (d * e)
  else Decimal.Binary.nearest? (n * e) (d * m)

/-- The greatest power of ten among the binary fractions. -/
def maxPower : Nat := 308

/-- A binary fraction times a power of ten, in steps of at most `maxPower`. -/
def scaleByPower? (steps : Nat) (value : Decimal.Binary) (power : Int) : Option Decimal.Binary :=
  match steps with
  | 0 => some ⟨0, 0⟩
  | steps + 1 =>
    if power.natAbs ≤ maxPower then do
      combine? (0 ≤ power) value (← Decimal.Binary.nearest? (Nat.pow 10 power.natAbs) 1)
    else if value.mantissa = 0 then some value
    else if 0 ≤ power then none
    else do
      let value ← combine? false value (← Decimal.Binary.nearest? (Nat.pow 10 maxPower) 1)
      scaleByPower? steps value (power + maxPower)

/-- The value of a written number, unless it is out of range. -/
def Literal.number? (l : Literal) : Option Number :=
  let fraction := l.fractionDigits.getD []
  let (whole, taken) := leadingValue 0 l.wholeDigits
  let complete := taken = l.wholeDigits.length
  if complete && l.fractionDigits.isNone && l.power.isNone &&
      (!l.negative || (whole ≠ 0 && whole ≤ 1 <<< 63)) then
    some (.whole (if l.negative then -whole else whole))
  else
    let (significand, more) := if complete then leadingValue whole fraction else (whole, 0)
    let power : Int := ((l.wholeDigits.length - taken : Nat) : Int) - more + l.power.getD 0
    match Decimal.Binary.nearest? significand 1 >>= (scaleByPower? 8 · power) with
    | some value => some (.decimal l.negative value.shortest)
    | none => none

end ControllerManager.Json
