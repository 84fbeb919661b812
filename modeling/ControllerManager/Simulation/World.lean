import ControllerManager.Election.Renewal
import ControllerManager.Simulation.Server

/-!
# A world of electors

Several electors, a server and two clocks: one that never goes back, by which durations are
measured, and the wall clock, by which leases are dated. At every instant the renewals of all
leaders do what is due, one request of each after the other, until nothing is left to do before the
clocks go on.

## Main definitions

* `Simulation.WallClock` — what a wall clock shows.
* `Simulation.World` — the state of the world.
* `Simulation.World.now` — what the wall clock shows now.
* `Simulation.World.renewAll` — the world after all renewals that are due.
* `Simulation.World.nextRenewalTime` — when the next renewal has something to do.
-/

namespace ControllerManager.Simulation

open Cluster Election

/-- A request that reached the server. -/
structure Sent where
  time : Nat
  target : Target
  call : LeaseCall
  deriving Repr

/-- What a leader holds while it is one. -/
structure Guard where
  renewal : Renewal
  /-- When the answer comes that the renewal waits for. -/
  due : Option Nat
  /-- Whether somebody has learned of the loss. -/
  lossSeen : Bool
  deriving Repr

/-- An elector and its leadership. -/
structure Candidate where
  elector : Elector
  isLeader : Bool
  guard : Option Guard
  deriving Repr

/-- What a wall clock shows at every time since the start. It may go at any pace, stand still, or be
set back. -/
abbrev WallClock := Nat → Lease.Instant

/-- The state of the world. -/
structure World where
  /-- Nanoseconds since the start. -/
  time : Nat
  clock : WallClock
  server : Server
  /-- Whether there is a way to the server. -/
  connected : Bool
  candidates : List Candidate
  /-- The requests so far, the last one first. -/
  sent : List Sent
  /-- The leadership that was recorded last. -/
  leadership : Option Bool

/-- What comes of a request. -/
inductive Sending where
  | answered (answer : LeaseAnswer)
  | pending (due : Nat)

namespace World

/-- What the wall clock shows. -/
def now (w : World) : Lease.Instant := w.clock w.time

/-- The world in which nothing has happened yet. -/
def initial (clock : WallClock) (server : Server) (connected : Bool) (electors : List Elector) :
    World where
  time := 0
  clock := clock
  server := server
  connected := connected
  candidates := electors.map fun e => ⟨e, false, none⟩
  sent := []
  leadership := none

/-- Why no request leaves where there is no way to the server. -/
def disconnected : Fault := .unreachable "client error (Connect)"

/-- The world after a request of an elector, and what comes of it. -/
def send (w : World) (e : Elector) (call : LeaseCall) : World × Sending :=
  match e.target call with
  | .error fault => (w, .answered (.error fault))
  | .ok target =>
    if !w.connected then (w, .answered (.error disconnected))
    else
      let w := { w with sent := ⟨w.time, target, call⟩ :: w.sent }
      let delay := w.server.nextDelay
      if delay = 0 then
        let (server, answer) := w.server.respond call
        ({ w with server := server }, .answered answer)
      else (w, .pending (w.time + delay))

/-- The world after the server answers a request that was pending, and the answer. -/
def answer (w : World) (call : LeaseCall) : World × LeaseAnswer :=
  let (server, answer) := w.server.respond call
  ({ w with server := server }, answer)

/-- The candidate of an index. -/
def candidate? (w : World) (i : Nat) : Option Candidate := w.candidates[i]?

/-- The world with another candidate in place of that of an index. -/
def setCandidate (w : World) (i : Nat) (c : Candidate) : World :=
  { w with candidates := w.candidates.set i c }

/-- The world after the renewal of a candidate moved on. A loss is recorded. -/
def setRenewal (w : World) (i : Nat) (c : Candidate) (g : Guard) (renewal : Renewal)
    (due : Option Nat) : World :=
  let guard := { g with renewal := renewal, due := due }
  match renewal with
  | .lost _ =>
    { w.setCandidate i { c with guard := some guard, isLeader := false } with
      leadership := some false }
  | _ => w.setCandidate i { c with guard := some guard }

/-- Whether the attempt of a candidate has a request to send. -/
def hasRequest (g : Guard) : Bool :=
  match g.renewal with
  | .attempting _ _ _ => g.due.isNone
  | _ => false

/-- The world after what is due for the renewal of a candidate, short of sending requests: the end
of a rest, an answer, or the end of the time for an attempt. -/
def wake (w : World) (i : Nat) : World :=
  match w.candidate? i with
  | some c =>
    match c.guard with
    | some g =>
      match g.renewal with
      | .resting lastRenewed wake =>
        if wake ≤ w.time then
          w.setRenewal i c g (.begin c.elector.timing lastRenewed w.time w.now) none
        else w
      | .attempting lastRenewed deadline attempt =>
        match g.due with
        | some due =>
          if due ≤ w.time then
            let (w, answer) := w.answer attempt.call
            w.setRenewal i c g
              (Renewal.receive c.elector w.time answer
                (.attempting lastRenewed deadline attempt)) none
          else if deadline ≤ w.time then
            w.setRenewal i c g (.giveUp c.elector.timing w.time g.renewal) none
          else w
        | none => w
      | _ => w
    | none => w
  | none => w

/-- The world after the renewal of a candidate sent its request. -/
def sendRenewal (w : World) (i : Nat) : World :=
  match w.candidate? i with
  | some c =>
    match c.guard with
    | some g =>
      match g.renewal, g.due with
      | .attempting lastRenewed deadline attempt, none =>
        match w.send c.elector attempt.call with
        | (w, .pending due) => w.setRenewal i c g g.renewal (some due)
        | (w, .answered answer) =>
          w.setRenewal i c g
            (Renewal.receive c.elector w.time answer
              (.attempting lastRenewed deadline attempt)) none
      | _, _ => w
    | none => w
  | none => w

/-- The candidates whose renewals have requests to send. -/
def ready (w : World) : List Nat :=
  (List.range w.candidates.length).filter fun i =>
    match (w.candidate? i).bind Candidate.guard with
    | some g => hasRequest g
    | none => false

/-- The world after the renewals sent their requests, one of each in every round. -/
def sendRounds (w : World) : Nat → World
  | 0 => w
  | rounds + 1 =>
    match w.ready with
    | [] => w
    | indices => sendRounds (indices.foldl sendRenewal w) rounds

/-- The world after all renewals that are due. An attempt has at most two requests. -/
def renewAll (w : World) : World :=
  sendRounds ((List.range w.candidates.length).foldl wake w) 2

/-- When a renewal has something to do. -/
def Guard.nextTime (g : Guard) : Option Nat :=
  match g.renewal with
  | .resting _ wake => some wake
  | .attempting _ deadline _ => some ((g.due.map (min deadline)).getD deadline)
  | _ => none

/-- When the next renewal has something to do. -/
def nextRenewalTime (w : World) : Option Nat :=
  (w.candidates.filterMap fun c => c.guard.bind Guard.nextTime).min?

/-- The world after a candidate became leader. A guard that it had before is given up afterwards,
which clears the leadership again. -/
def acquired (w : World) (i : Nat) (c : Candidate) : World :=
  let guard : Guard := ⟨.start c.elector.timing w.time, none, false⟩
  let isLeader := c.guard.isNone
  { w.setCandidate i { c with isLeader := isLeader, guard := some guard } with
    leadership := some isLeader }

/-- The world after a candidate gave its guard up, if it has one. -/
def dropGuard (w : World) (i : Nat) : World :=
  match w.candidate? i with
  | some c =>
    if c.guard.isSome then
      { w.setCandidate i { c with isLeader := false, guard := none } with
        leadership := some false }
    else w
  | none => w

end World

end ControllerManager.Simulation
