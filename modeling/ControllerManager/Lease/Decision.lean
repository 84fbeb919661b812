import ControllerManager.Lease.Basic

/-!
# Decisions on a lease

What an elector does about the lease that it has read. A lease of its own is renewed. A lease of
another holder is respected until it has expired; without a holder, a time of renewal or a
duration it counts as expired.

## Main definitions

* `Lease.Decision` — what to do.
* `Lease.decision?` — the decision, unless the moment of expiry lies beyond the calendar.
-/

namespace ControllerManager.Lease

/-- What to do about a lease. -/
inductive Decision where
  | create
  | renew
  | takeOver (transitions : Int32)
  | wait
  deriving Repr, DecidableEq

/-- Whether a lease that is not the elector's own has expired at `now`, unless the moment of its
expiry lies beyond the calendar. -/
def expired? (l : Lease) (now : Instant) : Option Bool :=
  match l.holder?, l.renewTime?, l.durationSeconds? with
  | some _, some renewed, some duration =>
    (renewed.addSeconds? duration.toInt).map fun expiry => decide (expiry < now)
  | _, _, _ => some true

/-- The decision of an elector on the lease that it has read, unless the moment of expiry lies
beyond the calendar. -/
def decision? (lease : Option Lease) (identity : String) (now : Instant) : Option Decision :=
  match lease with
  | none => some .create
  | some l =>
    if l.holder? = some identity then some .renew
    else (l.expired? now).map fun expired => if expired then .takeOver l.transitions else .wait

end ControllerManager.Lease
