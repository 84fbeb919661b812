import ControllerManager.Text.Decimal
import ControllerManager.Text.Lower

/-!
# Log levels

How much a log record matters, from the failures that end the process down to the finest trace.

## Main definitions

* `Log.Level` — the five levels.
* `Log.Threshold` — the levels that are let through.
-/

namespace ControllerManager.Log

/-- How much a log record matters. -/
inductive Level where
  | error
  | warn
  | info
  | debug
  | trace
  deriving Repr, DecidableEq

namespace Level

/-- The name of a level. -/
def name : Level → String
  | error => "ERROR"
  | warn => "WARN"
  | info => "INFO"
  | debug => "DEBUG"
  | trace => "TRACE"

/-- The fineness of a level, from one for failures. -/
def fineness : Level → Nat
  | error => 1
  | warn => 2
  | info => 3
  | debug => 4
  | trace => 5

end Level

/-- The levels that are let through: all up to a fineness, which may be zero. -/
structure Threshold where
  fineness : Nat
  fineness_le : fineness ≤ 5
  deriving Repr, DecidableEq

namespace Threshold

/-- Nothing is let through. -/
def off : Threshold := ⟨0, by decide⟩

/-- Records from a level upwards are let through. -/
def upTo (level : Level) : Threshold := ⟨level.fineness, by cases level <;> decide⟩

/-- Whether records of a level are let through. -/
def admits (t : Threshold) (level : Level) : Bool := level.fineness ≤ t.fineness

/-- The thresholds with their names. -/
def named : List (String × Threshold) :=
  [("off", off), ("error", upTo .error), ("warn", upTo .warn), ("info", upTo .info),
   ("debug", upTo .debug), ("trace", upTo .trace)]

/-- The threshold that a text denotes: a name in letters of either case, or the fineness. -/
def parse? (s : String) : Option Threshold :=
  match Text.readNumber 6 s.toList with
  | .ok n => if h : n ≤ 5 then some ⟨n, h⟩ else none
  | .error _ => (named.find? fun (name, _) => name == Text.lowerAscii s).map (·.2)

end Threshold

end ControllerManager.Log
