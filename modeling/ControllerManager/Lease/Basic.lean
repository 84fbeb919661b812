import ControllerManager.Lease.Instant

/-!
# Leases

The record through which several managers agree on a leader: who holds it, for how long each
renewal lasts, when it was acquired and renewed, and how often it changed hands.

## Main definitions

* `Lease.Spec` — the contents of a lease.
* `Lease` — a lease with its metadata.
* `Lease.SpecPatch` — a change of some of the contents.
-/

namespace ControllerManager

/-- The contents of a lease. Every field may be missing. -/
structure Lease.Spec where
  holder : Option String
  durationSeconds : Option Int32
  acquireTime : Option Lease.Instant
  renewTime : Option Lease.Instant
  transitions : Option Int32
  preferredHolder : Option String
  strategy : Option String
  deriving Repr, DecidableEq

/-- A lease with its metadata. -/
structure Lease where
  name : Option String
  namespaceName : Option String
  resourceVersion : Option String
  labels : Option (List (String × String))
  spec : Option Lease.Spec
  deriving Repr, DecidableEq

namespace Lease

/-- Contents without any field. -/
def Spec.blank : Spec := ⟨none, none, none, none, none, none, none⟩

/-- A change of the contents: each field stays, is removed, or has a new value. -/
structure SpecPatch where
  holder : Option (Option String) := none
  durationSeconds : Option (Option Int32) := none
  acquireTime : Option (Option Instant) := none
  renewTime : Option (Option Instant) := none
  transitions : Option (Option Int32) := none
  preferredHolder : Option (Option String) := none
  strategy : Option (Option String) := none
  deriving Repr, DecidableEq

/-- The contents after a change. -/
def SpecPatch.apply (p : SpecPatch) (s : Spec) : Spec where
  holder := p.holder.getD s.holder
  durationSeconds := p.durationSeconds.getD s.durationSeconds
  acquireTime := p.acquireTime.getD s.acquireTime
  renewTime := p.renewTime.getD s.renewTime
  transitions := p.transitions.getD s.transitions
  preferredHolder := p.preferredHolder.getD s.preferredHolder
  strategy := p.strategy.getD s.strategy

/-- The holder of a lease. -/
def holder? (l : Lease) : Option String := l.spec.bind Spec.holder

/-- The time of the last renewal. -/
def renewTime? (l : Lease) : Option Instant := l.spec.bind Spec.renewTime

/-- For how many seconds a renewal lasts. -/
def durationSeconds? (l : Lease) : Option Int32 := l.spec.bind Spec.durationSeconds

/-- How often the lease changed hands, zero where nothing is recorded. -/
def transitions (l : Lease) : Int32 := (l.spec.bind Spec.transitions).getD 0

end Lease

end ControllerManager
