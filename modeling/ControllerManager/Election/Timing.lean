/-!
# Timing of an election

For how long a lease lasts, for how long a leader goes on without a renewal, and how long it waits
between two attempts. All durations are in nanoseconds.

## Main definitions

* `Election.Timing` — the three durations.
* `Election.Timing.standard` — the durations where none are chosen.
-/

namespace ControllerManager.Election

/-- The durations of an election. A leader gives up before its lease can end. -/
structure Timing where
  leaseDuration : Nat
  /-- For how long a leader goes on without a renewal. -/
  renewDeadline : Nat
  retryInterval : Nat
  renewDeadline_le : renewDeadline ≤ leaseDuration
  deriving Repr, DecidableEq

namespace Timing

/-- Durations of which the second is cut to the first. -/
def make (leaseDuration renewDeadline retryInterval : Nat) : Timing :=
  ⟨leaseDuration, min renewDeadline leaseDuration, retryInterval, Nat.min_le_right _ _⟩

/-- The nanoseconds of a second. -/
def perSecond : Nat := 1000000000

/-- Fifteen seconds for a lease, ten without a renewal, two between attempts. -/
def standard : Timing := make (15 * perSecond) (10 * perSecond) (2 * perSecond)

/-- The duration of a lease as it is stored: whole seconds in 32 binary digits. -/
def leaseSeconds (t : Timing) : Int32 := Int32.ofNat (t.leaseDuration / perSecond)

end Timing

end ControllerManager.Election
