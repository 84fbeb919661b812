import ControllerManager.Election.Elector

/-!
# Attempts in progress

An attempt between its requests: it waits for the answer to the reading, then for the answer to
the writing, and ends with a verdict.

## Main definitions

* `Election.Attempt` — an attempt that waits for an answer.
* `Election.Attempt.receive` — the attempt after an answer.
-/

namespace ControllerManager.Election

open Cluster

/-- An attempt that waits for an answer. -/
inductive Attempt where
  /-- The lease is being read. The attempt started at `now` of the wall clock. -/
  | reading (now : Lease.Instant)
  /-- The lease is being written. -/
  | writing (call : LeaseCall) (hold : Hold)
  deriving Repr, DecidableEq

namespace Attempt

/-- The request whose answer the attempt waits for. -/
def call : Attempt → LeaseCall
  | .reading _ => .read
  | .writing call _ => call

/-- The attempt after an answer, or its verdict. -/
def receive (e : Elector) (a : Attempt) (answer : LeaseAnswer) : Attempt ⊕ Verdict :=
  match a with
  | .reading now =>
    match e.afterRead now answer with
    | .done verdict => .inr verdict
    | .write call hold => .inl (.writing call hold)
  | .writing _ hold => .inr (Elector.afterWrite hold answer)

end Attempt

/-- The giving back of a lease: it is read, and if the elector still holds it, its holder is
removed and its renewal dated back by a minute. -/
inductive Release where
  | reading
  | clearing (call : LeaseCall)
  deriving Repr, DecidableEq

namespace Release

/-- The change that gives a lease back. -/
def clearance (now : Lease.Instant) : Lease.SpecPatch :=
  { holder := some none, renewTime := some (some (now - 60 * Lease.Instant.perSecond)) }

/-- The request whose answer the release waits for. -/
def call : Release → LeaseCall
  | .reading => .read
  | .clearing call => call

/-- The release after an answer that came at `now`, or its outcome. -/
def receive (e : Elector) (now : Lease.Instant) (r : Release) (answer : LeaseAnswer) :
    Release ⊕ Except Error Unit :=
  match r with
  | .reading =>
    match Elector.leaseOf answer with
    | .error error => .inr (.error error)
    | .ok none => .inr (.ok ())
    | .ok (some lease) =>
      if lease.holder? = some e.identity then .inl (.clearing (.patch (clearance now)))
      else .inr (.ok ())
  | .clearing _ =>
    match answer with
    | .ok _ => .inr (.ok ())
    | .error fault => .inr (.error (.kube fault))

end Release

end ControllerManager.Election
