import ControllerManager.Simulation.World

/-!
# Timelines

What an observer does with the electors of a world, one activity after the other: acquire the
leadership, wait for its loss, give it back, or let time pass. Meanwhile the renewals of all
leaders go on. At every instant the activity goes first, then the renewals, then the requests of
the activity.

## Main definitions

* `Simulation.Activity` — what is being done.
* `Simulation.Outcome` — how an activity ends.
* `Simulation.World.perform` — the world after an activity, and its outcome.
-/

namespace ControllerManager.Simulation

open Cluster Election

/-- Where an acquisition stands. -/
inductive AcquirePhase where
  | attempting (attempt : Attempt) (due : Option Nat)
  /-- A pause after an attempt that did not gain the lease. -/
  | pausing (wake : Nat) (verdict : Verdict)
  deriving Repr

/-- What is being done, up to a deadline where there is one. -/
inductive Activity where
  | acquiring (index : Nat) (deadline : Option Nat) (phase : AcquirePhase)
  | awaitingLoss (index : Nat) (deadline : Option Nat)
  | releasing (index : Nat) (release : Release) (due : Option Nat)
  | sleeping (wake : Nat)
  deriving Repr

/-- How an activity ends. -/
inductive Outcome where
  | acquired
  | timedOut
  | lost
  | released (result : Except Error Unit)
  | slept
  | crashed (crash : Crash)

/-- An activity that goes on, or its outcome. -/
abbrev Progress := Activity ⊕ Outcome

/-- When an activity goes on by itself. -/
def Activity.nextTime : Activity → Option Nat
  | .sleeping wake => some wake
  | .awaitingLoss _ deadline => deadline
  | .acquiring _ deadline (.attempting _ due) => (deadline.toList ++ due.toList).min?
  | .acquiring _ deadline (.pausing wake _) => (wake :: deadline.toList).min?
  | .releasing _ _ due => due

namespace World

/-- The progress of an acquisition after the end of an attempt. -/
def acquireVerdict (w : World) (index : Nat) (deadline : Option Nat) (c : Candidate)
    (verdict : Verdict) : World × Progress :=
  match verdict with
  | .held _ => (w.acquired index c, .inr .acquired)
  | .crashed crash => (w, .inr (.crashed crash))
  | .refused _ | .failed _ =>
    (w, .inl
      (.acquiring index deadline (.pausing (w.time + c.elector.timing.retryInterval) verdict)))

/-- The progress of an acquisition after an answer. -/
def acquireAnswer (w : World) (index : Nat) (deadline : Option Nat) (c : Candidate)
    (attempt : Attempt) (answer : LeaseAnswer) : World × Progress :=
  match attempt.receive c.elector answer with
  | .inl attempt => (w, .inl (.acquiring index deadline (.attempting attempt none)))
  | .inr verdict => w.acquireVerdict index deadline c verdict

/-- The progress of a release after an answer. The guard is given up when the release is over. -/
def releaseAnswer (w : World) (index : Nat) (c : Candidate) (release : Release)
    (answer : LeaseAnswer) : World × Progress :=
  match release.receive c.elector w.now answer with
  | .inl release => (w, .inl (.releasing index release none))
  | .inr result => (w.dropGuard index, .inr (.released result))

/-- Whether a deadline has come. -/
def isOverdue (w : World) (deadline : Option Nat) : Bool := deadline.any (· ≤ w.time)

/-- The progress of an activity at an instant, short of sending requests. -/
def advance (w : World) (activity : Activity) : World × Progress :=
  match activity with
  | .sleeping wake => (w, if wake ≤ w.time then .inr .slept else .inl activity)
  | .awaitingLoss index deadline =>
    match (w.candidate? index).bind fun c => c.guard.map fun g => (c, g) with
    | some (c, g) =>
      if g.renewal.isOver && !g.lossSeen then
        (w.setCandidate index { c with guard := some { g with lossSeen := true } }, .inr .lost)
      else (w, if w.isOverdue deadline then .inr .timedOut else .inl activity)
    | none => (w, if w.isOverdue deadline then .inr .timedOut else .inl activity)
  | .acquiring index deadline phase =>
    match w.candidate? index with
    | none => (w, .inr .timedOut)
    | some c =>
      let (w, progress) : World × Progress :=
        match phase with
        | .attempting attempt (some due) =>
          if due ≤ w.time then
            let (w, answer) := w.answer attempt.call
            w.acquireAnswer index deadline c attempt answer
          else (w, .inl activity)
        | .attempting _ none => (w, .inl activity)
        | .pausing wake _ =>
          if wake ≤ w.time then
            (w, .inl (.acquiring index deadline (.attempting (.reading w.now) none)))
          else (w, .inl activity)
      match progress with
      | .inl activity => (w, if w.isOverdue deadline then .inr .timedOut else .inl activity)
      | .inr outcome => (w, .inr outcome)
  | .releasing index release due =>
    match w.candidate? index, due with
    | some c, some due =>
      if due ≤ w.time then
        let (w, answer) := w.answer release.call
        w.releaseAnswer index c release answer
      else (w, .inl activity)
    | some _, none => (w, .inl activity)
    | none, _ => (w, .inr (.released (.ok ())))

/-- The progress of an activity by the request that it has to send, if it has one. -/
def sendActivity (w : World) (activity : Activity) : Option (World × Progress) :=
  match activity with
  | .acquiring index deadline (.attempting attempt none) =>
    (w.candidate? index).map fun c =>
      match w.send c.elector attempt.call with
      | (w, .pending due) =>
        (w, .inl (.acquiring index deadline (.attempting attempt (some due))))
      | (w, .answered answer) => w.acquireAnswer index deadline c attempt answer
  | .releasing index release none =>
    (w.candidate? index).map fun c =>
      match w.send c.elector release.call with
      | (w, .pending due) => (w, .inl (.releasing index release (some due)))
      | (w, .answered answer) => w.releaseAnswer index c release answer
  | _ => none

/-- The world after an activity, and its outcome, unless it takes more than `steps` steps. -/
def runActivity (w : World) (activity : Activity) : Nat → World × Option Outcome
  | 0 => (w, none)
  | steps + 1 =>
    match w.advance activity with
    | (w, .inr outcome) => (w, some outcome)
    | (w, .inl activity) =>
      let w := w.renewAll
      match w.sendActivity activity with
      | some (w, .inr outcome) => (w, some outcome)
      | some (w, .inl activity) => runActivity w activity steps
      | none =>
        -- A loss may have come just now, which the activity may wait for.
        match w.advance activity with
        | (w, .inr outcome) => (w, some outcome)
        | (w, .inl activity) =>
          match (activity.nextTime.toList ++ w.nextRenewalTime.toList).min? with
          | none => (w, none)
          | some time => runActivity { w with time := max time w.time } activity steps

/-- The steps that suffice for an activity of `duration` nanoseconds. -/
def stepBound (w : World) (duration : Nat) : Nat :=
  let delays := w.server.plan.foldl (fun total p => total + p.delay) 0
  8 * (duration + delays + 2) * (w.candidates.length + 2)

/-- The activity of a candidate that begins to acquire the leadership. -/
def beginAcquire (w : World) (index : Nat) (deadline : Option Nat) : Activity :=
  .acquiring index deadline (.attempting (.reading w.now) none)

/-- The world after a candidate tried to acquire the leadership for `timeout` nanoseconds. -/
def acquire (w : World) (index timeout : Nat) : World × Option Outcome :=
  w.runActivity (w.beginAcquire index (some (w.time + timeout))) (w.stepBound timeout)

/-- The world after somebody waited for the loss of the leadership for `timeout` nanoseconds. -/
def awaitLoss (w : World) (index timeout : Nat) : World × Option Outcome :=
  w.runActivity (.awaitingLoss index (some (w.time + timeout))) (w.stepBound timeout)

/-- The world after some time. -/
def sleep (w : World) (duration : Nat) : World × Option Outcome :=
  w.runActivity (.sleeping (w.time + duration)) (w.stepBound duration)

/-- The world in which a candidate begins to give its lease back, and that activity, if it is a
leader. Its renewals end at once. -/
def beginRelease (w : World) (index : Nat) : Option (World × Activity) := do
  let c ← w.candidate? index
  let g ← c.guard
  let stopped := { g with renewal := .stopped, due := none }
  return (w.setCandidate index { c with guard := some stopped }, .releasing index .reading none)

/-- The world after a candidate gave its lease back. -/
def release (w : World) (index : Nat) : World × Option Outcome :=
  match w.beginRelease index with
  | some (w, activity) => w.runActivity activity (w.stepBound 0)
  | none => (w, none)

end World

end ControllerManager.Simulation
