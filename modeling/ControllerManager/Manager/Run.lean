import ControllerManager.Manager.Shutdown
import ControllerManager.Manager.Task
import ControllerManager.Metrics
import ControllerManager.Simulation.Timeline

/-!
# Running a manager

A run of a manager on a clock. The servers start first. Where there is an election, the controllers
wait for the lease. The run ends by the request to stop, by the loss of the leadership, or by the
end of a server or the failure of a controller; then the controllers are stopped, after them the
servers, and a lease that is still held is given back unless something failed.

At every instant the manager decides first, then the tasks move until none of them can, then the
manager decides once more. With nothing left to do the clock goes on.

## Main definitions

* `Manager.Phase` — where a run stands.
* `Manager.Context` — what controllers are started with.
* `Manager.Run` — the state of a run.
* `Manager.Run.start` — the run of a manager at its first instant.
* `Manager.Run.tick` — the run after one more thing was done.
* `Manager.Run.upTo` — the run at its end or at a limit of time.
-/

namespace ControllerManager.Manager

open Simulation

/-- Where a run stands. An outcome is the failure that ends the run, where one does. -/
inductive Phase where
  /-- The controllers wait for the lease. -/
  | electing (activity : Activity)
  | leading
  /-- The controllers are given until `deadline` to stop. -/
  | drainingControllers (outcome : Option Error) (deadline : Nat)
  /-- The servers are given until `deadline` to stop. `led` says whether the controllers had been
  started. -/
  | drainingServers (outcome : Option Error) (led : Bool) (deadline : Nat)
  /-- The lease is given back. -/
  | releasing (activity : Activity)
  | over (result : Option Error)
  /-- The run died without a result. -/
  | crashed
  deriving Repr

/-- Who does something next at an instant. -/
inductive Turn where
  /-- The manager decides before the tasks move. -/
  | opening
  | tasks
  /-- The manager decides after the tasks have moved. -/
  | closing
  deriving Repr, DecidableEq

/-- What happens to a run from outside. -/
inductive Action where
  | shutdown
  | dropSender
  /-- Somebody else changes the lease. -/
  | update (change : Lease.SpecPatch)
  | setUnavailable (value : Bool)
  deriving Repr, DecidableEq

/-- What a controller is started with. -/
structure Context where
  /-- The connection of the controllers. -/
  client : Cluster.Config
  scheme : Scheme
  defaults : Defaults.Values
  deriving Repr, DecidableEq

/-- What the controllers of a manager are started with. -/
def context (m : Manager) : Context := ⟨m.workload, m.scheme, m.defaults⟩

/-- What stands in the log of a run. -/
inductive Entry where
  | electionBegan
  | attemptFailed (verdict : Election.Verdict)
  | leaseAcquired
  | controllerCalled (name : String) (context : Context)
  | controllerFinished (name : String)
  | told (name : String) (happening : Happening)
  /-- Somebody asked the manager to stop. -/
  | stopAsked
  | shutdownBeforeLease
  | shutdownRequested
  | drainTimedOut (what : String)
  | releaseFailed (error : Error)
  | stoppedWithError (error : Error)
  /-- Somebody else tried to change a lease that is not there. -/
  | nothingToUpdate
  deriving Repr, DecidableEq

/-- The state of a run. -/
structure Run where
  /-- Nanoseconds since the start. -/
  time : Nat
  turn : Turn
  phase : Phase
  signal : ShutdownSignal
  /-- When the request to stop was passed on to the tasks. -/
  stopped : Option Nat
  /-- How long tasks may take to stop, in nanoseconds. -/
  grace : Nat
  /-- The controllers that are called once the manager leads. -/
  staff : List (String × Controller)
  context : Context
  controllers : List ControllerTask
  servers : List ServerTask
  /-- The elector of the manager, if it has one, and the server with the lease. -/
  world : World
  /-- What will happen from outside, in order of time. -/
  agenda : List (Nat × Action)
  /-- What has happened, the last entry first. -/
  log : List (Nat × Entry)

/-- What surrounds a run. -/
structure Surroundings where
  site : Site
  /-- The server with the lease. -/
  server : Server
  /-- Whether there is a way to that server. -/
  connected : Bool
  clock : WallClock
  signal : ShutdownSignal
  /-- What will happen from outside, in order of time. -/
  agenda : List (Nat × Action)

namespace Run

/-- The run with one more entry in its log. -/
def note (r : Run) (entry : Entry) : Run := { r with log := (r.time, entry) :: r.log }

/-- The run in another phase. -/
def enter (r : Run) (phase : Phase) : Run := { r with phase := phase }

/-- The run in which the request to stop has been passed on. -/
def stop (r : Run) : Run := { r with stopped := r.stopped.or (some r.time) }

/-- When tasks that are asked to stop now have to be done. -/
def deadline (r : Run) : Nat := r.time + r.grace

/-- The run in which every controller has been called, in order. -/
def lead (r : Run) : Run :=
  let log := r.staff.reverse.map fun (name, _) => (r.time, Entry.controllerCalled name r.context)
  { r with
    phase := .leading
    controllers := r.staff.map fun (name, steps) => ⟨name, .called steps⟩
    log := log ++ r.log }

/-- The run that stops with an outcome after its controllers were started. -/
def conclude (r : Run) (outcome : Option Error) : Run :=
  r.stop.enter (.drainingControllers outcome r.deadline)

/-- The run that stops with an outcome before any controller was started. -/
def giveUp (r : Run) (outcome : Option Error) : Run :=
  r.stop.enter (.drainingServers outcome false r.deadline)

/-- What the first server to end means for the manager. -/
def serverExit? (r : Run) : Option Error := r.servers.findSome? ServerTask.exitError?

/-- Whether the leadership is lost. -/
def leadershipLost (r : Run) : Bool :=
  ((r.world.candidate? 0).bind Candidate.guard).any fun g => g.renewal.isOver

/-- The controller that has ended without the manager taking note of it, and how it ended. -/
def unnoted? (r : Run) : Option (ControllerTask × Ending) :=
  r.controllers.findSome? fun t =>
    match t.state with
    | .ended ending false => some (t, ending)
    | _ => none

/-- The controllers after the manager took note of the end of one of them. -/
def noteEnd (name : String) (tasks : List ControllerTask) : List ControllerTask :=
  tasks.map fun t =>
    match t.state with
    | .ended ending _ => if t.name = name then { t with state := .ended ending true } else t
    | _ => t

/-- The run after the manager took note of the end of a controller. A failure concludes it. -/
def noteEnding (r : Run) (t : ControllerTask) (ending : Ending) : Run :=
  let r := { r with controllers := noteEnd t.name r.controllers }
  match ControllerTask.failure? t.name ending with
  | some error => r.conclude (some error)
  | none => r.note (.controllerFinished t.name)

/-- The run after the servers have stopped. A lease that is held is given back unless something
failed. -/
def finish (r : Run) (outcome : Option Error) (led : Bool) : Run :=
  match led, outcome with
  | false, _ => r.enter (.over outcome)
  | true, none =>
    match r.world.beginRelease 0 with
    | some (world, activity) => { r with world := world, phase := .releasing activity }
    | none => r.enter (.over none)
  | true, some error =>
    ({ r with world := r.world.dropGuard 0 }.note (.stoppedWithError error)).enter
      (.over (some error))

/-- What comes of the activity of the elector now, if anything does. -/
def settle (w : World) (activity : Activity) : Option (World × Progress) :=
  if activity.nextTime.any (· ≤ w.time) then some (w.advance activity)
  else w.sendActivity activity

/-- The run after the elector went on to acquire the lease. -/
def elect (r : Run) (activity : Activity) : Option Run :=
  (settle r.world activity).map fun (world, progress) =>
    let r := { r with world := world }
    match progress with
    | .inl next =>
      let r := r.enter (.electing next)
      match activity, next with
      | .acquiring _ _ (.attempting _ _), .acquiring _ _ (.pausing _ verdict) =>
        r.note (.attemptFailed verdict)
      | _, _ => r
    | .inr .acquired => (r.note .leaseAcquired).lead
    | .inr _ => r.enter .crashed

/-- The run after the elector went on to give the lease back. -/
def handBack (r : Run) (activity : Activity) : Option Run :=
  (settle r.world activity).map fun (world, progress) =>
    let r := { r with world := world }
    match progress with
    | .inl next => r.enter (.releasing next)
    | .inr (.released (.error error)) => (r.note (.releaseFailed error)).enter (.over none)
    | .inr _ => r.enter (.over none)

/-- The run after one decision of the manager, if there is one to make. -/
def decide? (r : Run) : Option Run :=
  match r.phase with
  | .electing activity =>
    if r.signal.resolved then some ((r.note .shutdownBeforeLease).giveUp none)
    else
      match r.serverExit? with
      | some error => some (r.giveUp (some error))
      | none => r.elect activity
  | .leading =>
    if r.signal.resolved then some ((r.note .shutdownRequested).conclude none)
    else if r.leadershipLost then some (r.conclude (some (.runtime "leader election lost")))
    else
      match r.serverExit? with
      | some error => some (r.conclude (some error))
      | none => r.unnoted?.map fun (t, ending) => r.noteEnding t ending
  | .drainingControllers outcome deadline =>
    if r.controllers.all ControllerTask.isOver then
      some (r.enter (.drainingServers outcome true r.deadline))
    else if deadline ≤ r.time then
      some ({ r with controllers := r.controllers.map ControllerTask.abort }.note
        (.drainTimedOut "controllers") |>.enter (.drainingServers outcome true r.deadline))
    else none
  | .drainingServers outcome led deadline =>
    if r.servers.all ServerTask.isOver then some (r.finish outcome led)
    else if deadline ≤ r.time then
      some ({ r with servers := r.servers.map ServerTask.abort }.note (.drainTimedOut "servers")
        |>.finish outcome led)
    else none
  | .releasing activity => r.handBack activity
  | .over _ | .crashed => none

/-- The controllers after the first of them that can has moved, with what it tells. -/
def moveController (time : Nat) (stopped : Bool) :
    List ControllerTask → Option (List ControllerTask × String × Option Happening)
  | [] => none
  | t :: rest =>
    match t.advance time stopped with
    | some (moved, happening) => some (moved :: rest, t.name, happening)
    | none => (moveController time stopped rest).map fun (rest, told) => (t :: rest, told)

/-- The servers after the first of them that can has moved. -/
def moveServer (time : Nat) (stopped : Option Nat) : List ServerTask → Option (List ServerTask)
  | [] => none
  | t :: rest =>
    match t.advance time stopped with
    | some moved => some (moved :: rest)
    | none => (moveServer time stopped rest).map (t :: ·)

/-- The run after one task has moved, if one can. Controllers come before servers. -/
def move? (r : Run) : Option Run :=
  match moveController r.time r.stopped.isSome r.controllers with
  | some (controllers, name, happening) =>
    let r := { r with controllers := controllers }
    match happening with
    | some happening => some (r.note (.told name happening))
    | none => some r
  | none =>
    (moveServer r.time r.stopped r.servers).map fun servers => { r with servers := servers }

/-- The run after something happened to it from outside. -/
def suffer (r : Run) (action : Action) : Run :=
  match action with
  | .shutdown => { r with signal := r.signal.send true }.note .stopAsked
  | .dropSender => { r with signal := r.signal.dropSender }
  | .setUnavailable value =>
    { r with world := { r.world with server := { r.world.server with unavailable := value } } }
  | .update change =>
    match r.world.server.store.update? change with
    | some store =>
      { r with world := { r.world with server := { r.world.server with store := store } } }
    | none => r.note .nothingToUpdate

/-- When a phase goes on by itself. -/
def phaseTime : Phase → Option Nat
  | .electing activity | .releasing activity => activity.nextTime
  | .drainingControllers _ deadline | .drainingServers _ _ deadline => some deadline
  | .leading | .over _ | .crashed => none

/-- The next instant at which something happens. -/
def nextTime (r : Run) : Option Nat :=
  ((r.agenda.map (·.1)) ++ r.controllers.filterMap ControllerTask.nextTime ++
    r.servers.filterMap (ServerTask.nextTime r.stopped) ++ (phaseTime r.phase).toList ++
    r.world.nextRenewalTime.toList).min?

/-- The run at a later instant. What happens from outside comes first, then the renewals. -/
def arrive (r : Run) (time : Nat) : Run :=
  let r := { r with time := time, turn := .opening, world := { r.world with time := time } }
  let due := r.agenda.filter (·.1 ≤ time)
  let r := due.foldl (fun r entry => r.suffer entry.2)
    { r with agenda := r.agenda.filter (time < ·.1) }
  { r with world := r.world.renewAll }

/-- Whether a run has come to its end. -/
def isOver (r : Run) : Bool :=
  match r.phase with
  | .over _ | .crashed => true
  | _ => false

/-- The run after one more thing was done no later than `limit`. Nothing is done where the run is
over, or where nothing happens any more until then. -/
def tick (limit : Nat) (r : Run) : Option Run :=
  if r.isOver then none
  else
    match r.turn with
    | .opening =>
      match r.decide? with
      | some r => some r
      | none => some { r with turn := .tasks }
    | .tasks =>
      match r.move? with
      | some r => some r
      | none => some { r with turn := .closing }
    | .closing =>
      match r.decide? with
      | some r => some { r with turn := .opening }
      | none =>
        match r.nextTime with
        | some time => if max time r.time ≤ limit then some (r.arrive (max time r.time)) else none
        | none => none

/-- The run after at most `steps` ticks. -/
def ticks (limit : Nat) (r : Run) : Nat → Run
  | 0 => r
  | steps + 1 =>
    match r.tick limit with
    | some r => ticks limit r steps
    | none => r

/-- The ticks that suffice up to a limit of time. -/
def tickBound (r : Run) (limit : Nat) : Nat :=
  let steps := r.staff.foldl (fun total (_, steps) => total + 2 * steps.length + 8) 0
  (limit + 2) * (steps + 4 * r.servers.length + 32)

/-- The run at its end, or at a limit of time. -/
def upTo (r : Run) (limit : Nat) : Run :=
  let r := r.ticks limit (r.tickBound limit)
  if r.isOver then r else { r with time := limit }

/-- Metrics with the leadership that the run recorded last. -/
def record (r : Run) (metrics : Metrics) : Metrics :=
  match r.world.leadership with
  | some isLeader => metrics.recordLeadership isLeader
  | none => metrics

/-- A plain server that is to listen at an address, if at any, and the site behind it. -/
def plainServer (site : Site) (name : ServerName) :
    Option Net.SocketAddress → Except Error (List ServerTask × Site)
  | none => .ok ([], site)
  | some address =>
    match bindFailure? site name address with
    | some error => .error error
    | none => .ok ([.start name none], site.occupy address)

/-- The servers of a manager at a site, unless one of the plain ones cannot listen. -/
def serverTasks (m : Manager) (site : Site) : Except Error (List ServerTask) := do
  let (health, site) ← plainServer site .health m.healthProbeAddress
  let (metrics, site) ← plainServer site .metrics m.metricsAddress
  let webhook : List ServerTask :=
    if m.webhooks.entries.isEmpty then [] else [.start .webhook (webhookFailure? site m)]
  return health ++ metrics ++ webhook

/-- The run of a manager at its first instant. -/
def start (m : Manager) (s : Surroundings) : Run :=
  let world : World :=
    .initial s.clock s.server s.connected (m.election.toList.map LeaderElection.elector)
  let r : Run :=
    { time := 0, turn := .opening, phase := .leading, signal := s.signal, stopped := none,
      grace := m.grace, staff := m.controllers.entries, context := m.context, controllers := [],
      servers := [], world := world, agenda := s.agenda, log := [] }
  match serverTasks m s.site with
  | .error error => r.enter (.over (some error))
  | .ok servers =>
    if (Webhook.Service.build? m.webhooks).isNone then r.enter .crashed
    else
      let r := { r with servers := servers }
      match m.election with
      | some _ => (r.note .electionBegan).enter (.electing (world.beginAcquire 0 none))
      | none => r.lead

end Run

end ControllerManager.Manager
