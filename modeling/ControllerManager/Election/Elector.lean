import ControllerManager.Cluster.LeaseCall
import ControllerManager.Election.Timing
import ControllerManager.Error
import ControllerManager.Lease.Decision

/-!
# Electors

One candidate for the leadership, and a single attempt of it to acquire or renew the lease: the
lease is read, and unless another holder has it, written under the version that was read.

## Main definitions

* `Election.Elector` — a candidate.
* `Election.Verdict` — how an attempt ends.
* `Election.Elector.afterRead` — what follows the answer to the reading.
* `Election.Elector.afterWrite` — the verdict that the answer to the writing means.
-/

namespace ControllerManager.Election

open Cluster

/-- A candidate for the leadership. -/
structure Elector where
  identity : String
  leaseName : String
  namespaceName : String
  timing : Timing
  deriving Repr, DecidableEq

/-- What an accepted write did. -/
inductive Hold where
  | created
  | renewed
  | tookOver (transitions : Int32)
  deriving Repr, DecidableEq

/-- Why the lease was not gained, although nothing failed. -/
inductive Refusal where
  /-- Another holder has it. -/
  | heldByOther
  /-- Another write came before. -/
  | conflict
  deriving Repr, DecidableEq

/-- What no elector survives. -/
inductive Crash where
  /-- The moment of expiry lies beyond the calendar. -/
  | expiryBeyondCalendar
  /-- The count of transitions does not fit any more. -/
  | transitionsOverflow
  deriving Repr, DecidableEq

/-- How an attempt ends. -/
inductive Verdict where
  | held (hold : Hold)
  | refused (refusal : Refusal)
  | failed (error : Error)
  | crashed (crash : Crash)
  deriving Repr, DecidableEq

/-- Whether the elector holds the lease after the attempt. -/
def Verdict.isHeld : Verdict → Bool
  | .held _ => true
  | _ => false

/-- What follows the reading of the lease. -/
inductive AfterRead where
  | done (verdict : Verdict)
  | write (call : LeaseCall) (hold : Hold)
  deriving Repr, DecidableEq

namespace Elector

/-- The lease of the manager where no other one is chosen. -/
def standardLease : String := "f3d4c01a.redhat.com"

/-- The contents that a new holder writes. -/
def freshSpec (e : Elector) (now : Lease.Instant) (transitions : Int32) : Lease.Spec where
  holder := some e.identity
  durationSeconds := some e.timing.leaseSeconds
  acquireTime := some now
  renewTime := some now
  transitions := some transitions
  preferredHolder := none
  strategy := none

/-- The lease that a new holder writes. -/
def freshLease (e : Elector) (now : Lease.Instant) (transitions : Int32)
    (resourceVersion : Option String) : Lease where
  name := some e.leaseName
  namespaceName := some e.namespaceName
  resourceVersion := resourceVersion
  labels := none
  spec := some (e.freshSpec now transitions)

/-- A lease with another time of renewal. -/
def renewedLease (lease : Lease) (now : Lease.Instant) : Lease :=
  { lease with spec := lease.spec.map fun s => { s with renewTime := some now } }

/-- The failure of a write over a lease that carries no version. -/
def missingVersion : Verdict := .failed (.runtime "lease missing resourceVersion")

/-- The greatest count of transitions. -/
def maxTransitions : Int32 := Int32.maxValue

/-- What follows the reading of `lease` at `now`. -/
def act (e : Elector) (now : Lease.Instant) (lease : Option Lease) : AfterRead :=
  match Lease.decision? lease e.identity now with
  | none => .done (.crashed .expiryBeyondCalendar)
  | some .wait => .done (.refused .heldByOther)
  | some .create => .write (.create (e.freshLease now 0 none)) .created
  | some .renew =>
    match lease with
    | none => .done (.refused .heldByOther)
    | some l =>
      match l.resourceVersion with
      | none => .done missingVersion
      | some _ => .write (.replace (renewedLease l now)) .renewed
  | some (.takeOver transitions) =>
    match lease.bind Lease.resourceVersion with
    | none => .done missingVersion
    | some version =>
      if transitions = maxTransitions then .done (.crashed .transitionsOverflow)
      else
        .write (.replace (e.freshLease now (transitions + 1) (some version)))
          (.tookOver (transitions + 1))

/-- The lease that an answer to the reading holds. A refusal that names the lease as not found
means that there is none. -/
def leaseOf (answer : LeaseAnswer) : Except Error (Option Lease) :=
  match answer with
  | .ok lease => .ok (some lease)
  | .error fault => if fault.isNotFound then .ok none else .error (.kube fault)

/-- What follows the answer to the reading, in an attempt that started at `now`. -/
def afterRead (e : Elector) (now : Lease.Instant) (answer : LeaseAnswer) : AfterRead :=
  match leaseOf answer with
  | .ok lease => e.act now lease
  | .error error => .done (.failed error)

/-- The verdict that the answer to the writing means. -/
def afterWrite (hold : Hold) (answer : LeaseAnswer) : Verdict :=
  match answer with
  | .ok _ => .held hold
  | .error (.refused r) =>
    if r.code = 409 then .refused .conflict else .failed (.kube (.refused r))
  | .error fault => .failed (.kube fault)

/-- The path of a request of the elector, unless it cannot be made. -/
def target (e : Elector) (call : LeaseCall) : Except Fault Target :=
  call.target e.namespaceName e.leaseName

end Elector

end ControllerManager.Election
