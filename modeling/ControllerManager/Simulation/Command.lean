import ControllerManager.Simulation.Timeline

/-!
# Commands to a world

What an observer of a world asks for, one thing after the other: that a candidate acquires, awaits
or ends its leadership, that time passes, or that something about the server changes.

## Main definitions

* `Simulation.Command` — what is asked for.
* `Simulation.World.obey?` — the world after a command, and its outcome.
-/

namespace ControllerManager.Simulation

open Cluster Election

/-- What an observer asks for. Candidates are named by their index, times are in nanoseconds. -/
inductive Command where
  | acquire (index timeout : Nat)
  | awaitLoss (index timeout : Nat)
  | release (index : Nat)
  | dropGuard (index : Nat)
  | sleep (duration : Nat)
  /-- Somebody else changes the lease. -/
  | update (change : Lease.SpecPatch)
  | delete
  /-- More is planned for the requests to come. -/
  | plan (items : List Planned)
  | setUnavailable (value : Bool)
  deriving Repr

namespace World

/-- The world with another server. -/
def withServer (w : World) (server : Server) : World := { w with server := server }

/-- The world with another store behind its server. -/
def withStore (w : World) (store : LeaseStore) : World :=
  w.withServer { w.server with store := store }

/-- The world after a command, and its outcome if it has one. There has to be a lease for a change
of it. -/
def obey? (w : World) : Command → Option (World × Option Outcome)
  | .acquire index timeout => some (w.acquire index timeout)
  | .awaitLoss index timeout => some (w.awaitLoss index timeout)
  | .release index => some (w.release index)
  | .dropGuard index => some (w.dropGuard index, none)
  | .sleep duration => some (w.sleep duration)
  | .update change => (w.server.store.update? change).map fun store => (w.withStore store, none)
  | .delete => some (w.withStore w.server.store.delete, none)
  | .plan items => some (w.withServer { w.server with plan := w.server.plan ++ items }, none)
  | .setUnavailable value => some (w.withServer { w.server with unavailable := value }, none)

end World

end ControllerManager.Simulation
