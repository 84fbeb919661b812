/-!
# Decimal numbers in text

The reading of unsigned whole numbers with an upper bound, as ports and timeouts are written.

## Main definitions

* `Text.NumberFault` — why a text is not such a number.
* `Text.readNumber` — the number that a text denotes, with at most one leading plus sign.
-/

namespace ControllerManager.Text

/-- Why a text is not an unsigned number below the bound. -/
inductive NumberFault where
  | empty
  | invalidDigit
  | tooLarge
  deriving Repr, DecidableEq

/-- The wording of a fault. -/
def NumberFault.message : NumberFault → String
  | .empty => "cannot parse integer from empty string"
  | .invalidDigit => "invalid digit found in string"
  | .tooLarge => "number too large to fit in target type"

/-- The value of a decimal digit. -/
def digit? (c : Char) : Option Nat :=
  if '0' ≤ c && c ≤ '9' then some (c.toNat - 48) else none

/-- The number that the digits `cs` continue `value` to. The first fault from the left counts: a
character that is no digit, or a value of `bound` or more. -/
def readDigits (bound value : Nat) : List Char → Except NumberFault Nat
  | [] => .ok value
  | c :: cs =>
    match digit? c with
    | none => .error .invalidDigit
    | some d =>
      if value * 10 + d < bound then readDigits bound (value * 10 + d) cs else .error .tooLarge

/-- The number below `bound` that a text denotes, with at most one leading plus sign. -/
def readNumber (bound : Nat) : List Char → Except NumberFault Nat
  | [] => .error .empty
  | '+' :: [] => .error .invalidDigit
  | '+' :: cs => readDigits bound 0 cs
  | cs => readDigits bound 0 cs

end ControllerManager.Text
