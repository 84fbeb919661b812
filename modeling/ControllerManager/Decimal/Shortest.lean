/-!
# Binary fractions and their shortest decimals

Numbers of the form `m * 2 ^ q` with at most 53 binary digits: the one nearest to a quotient, and
the shortest decimal that is nearer to such a number than to its neighbours.

## Main definitions

* `Decimal.Binary` — a number `m * 2 ^ q`.
* `Decimal.Binary.nearest?` — the number nearest to a quotient, ties going to even.
* `Decimal.Binary.shortest` — the fewest decimal digits that read back.
-/

namespace ControllerManager.Decimal

/-- The number `mantissa * 2 ^ exponent`. -/
structure Binary where
  mantissa : Nat
  exponent : Int
  deriving Repr, DecidableEq

/-- A decimal `digits * 10 ^ exponent`. -/
structure Scaled where
  digits : Nat
  exponent : Int
  deriving Repr, DecidableEq

namespace Binary

/-- The binary digits of a mantissa. -/
def precision : Nat := 53

/-- The least exponent. -/
def minExponent : Int := -1074

/-- The quotient `num / den` in units of `2 ^ q`, as a numerator and a denominator. -/
def scale (num den : Nat) (q : Int) : Nat × Nat :=
  if 0 ≤ q then (num, den <<< q.toNat) else (num <<< (-q).toNat, den)

/-- The whole number nearest to a quotient, ties going to even. -/
def roundHalfEven (num den : Nat) : Nat :=
  let whole := num / den
  let rest := num % den
  if 2 * rest < den then whole
  else if 2 * rest = den then whole + whole % 2
  else whole + 1

/-- The exponent in whose units a positive quotient has exactly `precision` binary digits, or the
least exponent. -/
def exponentFor (num den : Nat) : Int :=
  let guess : Int := (Nat.log2 num : Int) - Nat.log2 den - (precision - 1 : Nat)
  let (n, d) := scale num den guess
  max minExponent (if n / d < 1 <<< (precision - 1) then guess - 1 else guess)

/-- The number nearest to a quotient, ties going to even, unless it is out of range. -/
def nearest? (num den : Nat) : Option Binary :=
  if num = 0 then some ⟨0, 0⟩
  else
    let q := exponentFor num den
    let (n, d) := scale num den q
    let m := roundHalfEven n d
    let (m, q) := if m = 1 <<< precision then (1 <<< (precision - 1), q + 1) else (m, q)
    if 971 < q then none else some ⟨m, q⟩

/-- The number as a numerator and a denominator. -/
def fraction (b : Binary) : Nat × Nat :=
  if 0 ≤ b.exponent then (b.mantissa <<< b.exponent.toNat, 1)
  else (b.mantissa, 1 <<< (-b.exponent).toNat)

/-- Whether the decimal lies among the numbers that round to `b`. -/
def admits (b : Binary) (s : Scaled) : Bool :=
  let (n, d) :=
    if 0 ≤ s.exponent then (s.digits * Nat.pow 10 s.exponent.toNat, 1)
    else (s.digits, Nat.pow 10 (-s.exponent).toNat)
  nearest? n d == some b

/-- The decimals with exponent `e` on both sides of the number, the nearer one first. -/
def neighbours (b : Binary) (e : Int) : List Scaled :=
  let (num, den) := b.fraction
  let (n, d) :=
    if 0 ≤ e then (num, den * Nat.pow 10 e.toNat) else (num * Nat.pow 10 (-e).toNat, den)
  let low := n / d
  let rest := n % d
  if 2 * rest ≤ d then [⟨low, e⟩, ⟨low + 1, e⟩] else [⟨low + 1, e⟩, ⟨low, e⟩]

/-- A decimal without trailing zeros. -/
def stripZeros (fuel : Nat) (s : Scaled) : Scaled :=
  match fuel with
  | 0 => s
  | fuel + 1 =>
    if s.digits ≠ 0 && s.digits % 10 = 0 then stripZeros fuel ⟨s.digits / 10, s.exponent + 1⟩
    else s

/-- The first decimal that reads back, with exponents from `e` downwards. -/
def search (b : Binary) (e : Int) : Nat → Scaled
  | 0 => ⟨0, 0⟩
  | steps + 1 =>
    match (neighbours b e).find? b.admits with
    | some s => s
    | none => search b (e - 1) steps

/-- The fewest decimal digits that read back, and of those the nearest. -/
def shortest (b : Binary) : Scaled :=
  if b.mantissa = 0 then ⟨0, 0⟩
  else
    let (num, den) := b.fraction
    let top : Int := ((Nat.toDigits 10 num).length : Int) - (Nat.toDigits 10 den).length + 1
    stripZeros 400 (search b top 24)

end Binary

end ControllerManager.Decimal
