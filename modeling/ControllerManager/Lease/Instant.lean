/-!
# Instants

Moments of the wall clock in microseconds since the epoch, with the range of the calendar in which
sums are taken.

## Main definitions

* `Lease.Instant` — a moment of the wall clock.
* `Lease.Instant.addSeconds?` — a later moment, unless it lies beyond the calendar.
* `Lease.Instant.after` — what a steady clock shows later.
-/

namespace ControllerManager.Lease

/-- A moment in microseconds since the epoch. -/
abbrev Instant := Int

namespace Instant

/-- The microseconds of a second. -/
def perSecond : Int := 1000000

/-- The first moment of the calendar, in the year -262143. -/
def earliest : Instant := -8334601228800 * perSecond

/-- The last moment of the calendar, in the year 262142. -/
def latest : Instant := 8210266876799 * perSecond + 999999

/-- The moment a number of seconds later, unless it lies beyond the calendar. -/
def addSeconds? (t : Instant) (seconds : Int) : Option Instant :=
  let sum := t + seconds * perSecond
  if earliest ≤ sum ∧ sum ≤ latest then some sum else none

/-- What a steady clock shows a number of nanoseconds after it showed `t`. -/
def after (t : Instant) (nanoseconds : Nat) : Instant := t + (nanoseconds / 1000 : Nat)

theorem after_le_after {t : Instant} {earlier later : Nat} (h : earlier ≤ later) :
    t.after earlier ≤ t.after later :=
  Int.add_le_add_left (Int.ofNat_le.2 (Nat.div_le_div_right h)) t

theorem le_after (t : Instant) (nanoseconds : Nat) : t ≤ t.after nanoseconds :=
  Int.le_add_of_nonneg_right (Int.natCast_nonneg _)

end Instant

end ControllerManager.Lease
