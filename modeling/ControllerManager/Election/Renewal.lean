import ControllerManager.Election.Attempt

/-!
# Renewals

How a leader keeps its lease. It rests for the retry interval and makes an attempt, which ends at
the latest when the renewal deadline after the last renewal has passed. Once that much time has
passed without a renewal, the leadership is lost.

## Main definitions

* `Election.Renewal` — where the leader stands between two renewals.
* `Election.Renewal.begin`, `Election.Renewal.receive`, `Election.Renewal.giveUp` — its steps.
-/

namespace ControllerManager.Election

open Cluster

/-- Where a leader stands between two renewals. Times are nanoseconds of a clock that never goes
back. -/
inductive Renewal where
  /-- It rests until `wake`. -/
  | resting (lastRenewed wake : Nat)
  /-- It waits for an answer, until `deadline` at the latest. -/
  | attempting (lastRenewed deadline : Nat) (attempt : Attempt)
  /-- The leadership was lost at that time. -/
  | lost (time : Nat)
  /-- The attempt crashed, which ends the renewals without a trace. -/
  | crashed (crash : Crash)
  /-- The leader gave up its lease by itself. -/
  | stopped
  deriving Repr, DecidableEq

namespace Renewal

/-- The renewals of a leader that acquired the lease at `time`. -/
def start (t : Timing) (time : Nat) : Renewal := .resting time (time + t.retryInterval)

/-- The renewals after an attempt that ended at `time` without a renewal. -/
def afterFailure (t : Timing) (lastRenewed time : Nat) : Renewal :=
  if t.renewDeadline ≤ time - lastRenewed then .lost time
  else .resting lastRenewed (time + t.retryInterval)

/-- The renewals after an attempt that ended at `time`. -/
def afterVerdict (t : Timing) (lastRenewed time : Nat) : Verdict → Renewal
  | .held _ => .resting time (time + t.retryInterval)
  | .crashed crash => .crashed crash
  | .refused _ | .failed _ => afterFailure t lastRenewed time

/-- The attempt that starts at `time`, when the wall clock shows `now`. Without any time left for
it, nothing is sent and the attempt is over. -/
def begin (t : Timing) (lastRenewed time : Nat) (now : Lease.Instant) : Renewal :=
  let remaining := t.renewDeadline - (time - lastRenewed)
  if remaining = 0 then afterFailure t lastRenewed time
  else .attempting lastRenewed (time + remaining) (.reading now)

/-- The renewals after an answer that came at `time`. Where the attempt goes on but no time is left
for it, it is over. -/
def receive (e : Elector) (time : Nat) (answer : LeaseAnswer) : Renewal → Renewal
  | .attempting lastRenewed deadline attempt =>
    match attempt.receive e answer with
    | .inl attempt =>
      if deadline ≤ time then afterFailure e.timing lastRenewed time
      else .attempting lastRenewed deadline attempt
    | .inr verdict => afterVerdict e.timing lastRenewed time verdict
  | r => r

/-- The renewals after the end of the time for an attempt. -/
def giveUp (t : Timing) (time : Nat) : Renewal → Renewal
  | .attempting lastRenewed _ _ => afterFailure t lastRenewed time
  | r => r

/-- Whether whoever waits for the loss of the leadership goes on. The end of the renewals counts,
whatever it was. -/
def isOver : Renewal → Bool
  | .lost _ | .crashed _ | .stopped => true
  | _ => false

end Renewal

end ControllerManager.Election
