import ControllerManager.Proofs.Manager.Leadership
import ControllerManager.Proofs.Simulation.Requests
import Mathlib.Logic.Relation

/-!
# Courses of a run

What can happen to a run, one thing after the other. Beside the ticks of the run itself, its
surroundings are free: the server with the lease may become another one at any time, so that it
answers whatever it likes; a controller that runs may go on in another way, so that it may end at
any time; and a server that serves may get another time at which it ends, or needs to stop.

## Main definitions

* `Manager.Run.Decides` — the decisions of a manager, each under its condition.
* `Manager.Run.Advances` — the kinds of ticks.
* `Manager.Run.Happens` — one thing that happens to a run.
* `Manager.Run.Course` — a run comes from another one.

## Main results

* `Manager.Run.decides_of_decide?`, `Manager.Run.advances_of_tick` — decisions and ticks are of
  these kinds.
* `Manager.Run.Course.keeps` — a run keeps its staff, and what the controllers are started with.
* `Manager.Run.Course.governed` — a run with an election is governed in all of its courses.
-/

namespace ControllerManager.Manager

open Simulation

/-- A state that a controller takes by itself. -/
def ControllerState.Own : ControllerState → Prop
  | .active _ | .sleeping _ _ | .ended _ false => True
  | .called _ | .ended _ true | .aborted => False

/-- How often a controller can go on at most, counting that the manager takes note of its end. -/
def ControllerState.movesLeft : ControllerState → Nat
  | .called steps | .sleeping _ steps => 2 * steps.length + 4
  | .active steps => 2 * steps.length + 3
  | .ended _ false => 1
  | .ended _ true | .aborted => 0

/-- A controller that moves was not over. It takes a state by itself, and has fewer moves left. -/
theorem ControllerTask.advance_cases {t t' : ControllerTask} {time : Nat} {stopped : Bool}
    {happening : Option Happening} (h : t.advance time stopped = some (t', happening)) :
    t.isOver = false ∧ ∃ state : ControllerState, state.Own ∧
      state.movesLeft < t.state.movesLeft ∧ t' = { t with state := state } := by
  obtain ⟨name, state⟩ := t
  unfold advance at h
  cases state with
  | called steps =>
    cases h
    exact ⟨rfl, .active steps, trivial, Nat.lt_succ_self _, rfl⟩
  | active steps =>
    rcases steps with _ | ⟨step, steps⟩
    · cases h
      exact ⟨rfl, .ended .finished false, trivial, by simp [ControllerState.movesLeft], rfl⟩
    · have hleft : 2 * steps.length + 5 = (ControllerState.active (step :: steps)).movesLeft := by
        simp only [ControllerState.movesLeft, List.length_cons]
        omega
      rw [← hleft]
      cases step with
      | sleep duration =>
        cases h
        exact ⟨rfl, .sleeping (time + duration) steps, trivial, Nat.lt_succ_self _, rfl⟩
      | fail error =>
        cases h
        exact ⟨rfl, .ended (.failed error) false, trivial, by simp [ControllerState.movesLeft], rfl⟩
      | crash message =>
        cases h
        exact ⟨rfl, .ended (.crashed message) false, trivial, by simp [ControllerState.movesLeft],
          rfl⟩
      | awaitStop =>
        dsimp only at h
        split_ifs at h
        cases h
        exact ⟨rfl, .active steps, trivial, by simp [ControllerState.movesLeft], rfl⟩
      | report =>
        cases h
        exact ⟨rfl, .active steps, trivial, by simp [ControllerState.movesLeft], rfl⟩
      | hang => cases h
  | sleeping wake steps =>
    dsimp only at h
    split_ifs at h
    cases h
    exact ⟨rfl, .active steps, trivial, Nat.lt_succ_self _, rfl⟩
  | ended ending noted => cases h
  | aborted => cases h

/-- A server that moves has served until now, and ends. -/
theorem ServerTask.advance_cases {t t' : ServerTask} {time : Nat} {stopped : Option Nat}
    (h : t.advance time stopped = some t') :
    t.isOver = false ∧ ∃ failure, t' = { t with state := .ended failure } := by
  unfold advance at h
  split at h
  · rename_i hserving
    have hruns : t.isOver = false := by rw [isOver, hserving]
    split at h
    · cases h
      exact ⟨hruns, _, rfl⟩
    · split_ifs at h
      cases h
      exact ⟨hruns, none, rfl⟩
  · cases h
  · cases h

namespace Run

/-- The controllers that move are those before, but for one that does what it can do now. -/
theorem moveController_advance {tasks tasks' : List ControllerTask} {time : Nat} {stopped : Bool}
    {told : String × Option Happening}
    (h : moveController time stopped tasks = some (tasks', told)) :
    ∃ (i : Nat) (t t' : ControllerTask) (happening : Option Happening), tasks[i]? = some t ∧
      t.advance time stopped = some (t', happening) ∧ tasks' = tasks.set i t' := by
  induction tasks generalizing tasks' told with
  | nil => cases h
  | cons t rest ih =>
    unfold moveController at h
    split at h
    · rename_i moved happening hadvance
      cases h
      exact ⟨0, t, moved, happening, rfl, hadvance, rfl⟩
    · obtain ⟨⟨rest', told'⟩, hrest, heq⟩ := Option.map_eq_some_iff.1 h
      cases heq
      obtain ⟨i, t', moved, happening, ht', hadvance, rfl⟩ := ih hrest
      exact ⟨i + 1, t', moved, happening, ht', hadvance, rfl⟩

/-- The controllers that move are those before, but for one that has moved. -/
theorem moveController_cases {tasks tasks' : List ControllerTask} {time : Nat} {stopped : Bool}
    {told : String × Option Happening}
    (h : moveController time stopped tasks = some (tasks', told)) :
    ∃ (i : Nat) (t : ControllerTask) (state : ControllerState), tasks[i]? = some t ∧
      t.isOver = false ∧ state.Own ∧ state.movesLeft < t.state.movesLeft ∧
      tasks' = tasks.set i { t with state := state } := by
  obtain ⟨i, t, t', happening, ht, hadvance, rfl⟩ := moveController_advance h
  obtain ⟨hruns, state, hown, hless, rfl⟩ := ControllerTask.advance_cases hadvance
  exact ⟨i, t, state, ht, hruns, hown, hless, rfl⟩

/-- The servers that move are those before, but for one that has ended. -/
theorem moveServer_cases {tasks tasks' : List ServerTask} {time : Nat} {stopped : Option Nat}
    (h : moveServer time stopped tasks = some tasks') :
    ∃ (i : Nat) (t : ServerTask) (failure : Option Error), tasks[i]? = some t ∧
      t.isOver = false ∧ tasks' = tasks.set i { t with state := .ended failure } := by
  induction tasks generalizing tasks' with
  | nil => cases h
  | cons t rest ih =>
    unfold moveServer at h
    split at h
    · rename_i moved hadvance
      cases h
      obtain ⟨hruns, failure, rfl⟩ := ServerTask.advance_cases hadvance
      exact ⟨0, t, failure, rfl, hruns, rfl⟩
    · obtain ⟨rest', hrest, rfl⟩ := Option.map_eq_some_iff.1 h
      obtain ⟨i, t', failure, ht', hruns, rfl⟩ := ih hrest
      exact ⟨i + 1, t', failure, ht', hruns, rfl⟩

/-- What moves is one controller or one server. -/
theorem move_cases {r r' : Run} (h : r.move? = some r') :
    (∃ (i : Nat) (t : ControllerTask) (state : ControllerState) (log : List (Nat × Entry)),
        r.controllers[i]? = some t ∧ t.isOver = false ∧ state.Own ∧
        state.movesLeft < t.state.movesLeft ∧
        r' = { r with controllers := r.controllers.set i { t with state := state }, log := log }) ∨
      ∃ (i : Nat) (t : ServerTask) (failure : Option Error), r.servers[i]? = some t ∧
        t.isOver = false ∧
        r' = { r with servers := r.servers.set i { t with state := .ended failure } } := by
  unfold move? at h
  split at h
  · rename_i controllers name happening hmove
    obtain ⟨i, t, state, ht, hruns, hown, hless, rfl⟩ := moveController_cases hmove
    left
    split at h
    · cases h
      exact ⟨i, t, state, _, ht, hruns, hown, hless, rfl⟩
    · cases h
      exact ⟨i, t, state, _, ht, hruns, hown, hless, rfl⟩
  · obtain ⟨servers, hmove, rfl⟩ := Option.map_eq_some_iff.1 h
    obtain ⟨i, t, failure, ht, hruns, rfl⟩ := moveServer_cases hmove
    exact .inr ⟨i, t, failure, ht, hruns, rfl⟩

variable {r r' r'' : Run} {limit : Nat}

/-! ### Decisions -/

/-- The decisions of a manager, each under its condition. -/
inductive Decides (r : Run) : Run → Prop
  | abandon {activity : Activity} (hphase : r.phase = .electing activity)
      (hsignal : r.signal.resolved = true) : Decides r ((r.note .shutdownBeforeLease).giveUp none)
  | failEarly {activity : Activity} {error : Error} (hphase : r.phase = .electing activity)
      (hexit : r.serverExit? = some error) : Decides r (r.giveUp (some error))
  | elect {activity : Activity} {r' : Run} (hphase : r.phase = .electing activity)
      (hsignal : r.signal.resolved = false) (hexit : r.serverExit? = none)
      (h : r.elect activity = some r') : Decides r r'
  | stop (hphase : r.phase = .leading) (hsignal : r.signal.resolved = true) :
      Decides r ((r.note .shutdownRequested).conclude none)
  | lose (hphase : r.phase = .leading) (hlost : r.leadershipLost = true) :
      Decides r (r.conclude (some (.runtime "leader election lost")))
  | fail {error : Error} (hphase : r.phase = .leading) (hexit : r.serverExit? = some error) :
      Decides r (r.conclude (some error))
  | note {t : ControllerTask} {ending : Ending} (hphase : r.phase = .leading)
      (h : r.unnoted? = some (t, ending)) : Decides r (r.noteEnding t ending)
  | drained {outcome : Option Error} {deadline : Nat}
      (hphase : r.phase = .drainingControllers outcome deadline)
      (hover : r.controllers.all ControllerTask.isOver = true) :
      Decides r (r.enter (.drainingServers outcome true r.deadline))
  | abort {outcome : Option Error} {deadline : Nat}
      (hphase : r.phase = .drainingControllers outcome deadline) (hlate : deadline ≤ r.time) :
      Decides r ({ r with controllers := r.controllers.map ControllerTask.abort }.note
        (.drainTimedOut "controllers") |>.enter (.drainingServers outcome true r.deadline))
  | finish {outcome : Option Error} {led : Bool} {deadline : Nat}
      (hphase : r.phase = .drainingServers outcome led deadline)
      (hover : r.servers.all ServerTask.isOver = true) : Decides r (r.finish outcome led)
  | abortServers {outcome : Option Error} {led : Bool} {deadline : Nat}
      (hphase : r.phase = .drainingServers outcome led deadline) (hlate : deadline ≤ r.time) :
      Decides r ({ r with servers := r.servers.map ServerTask.abort }.note
        (.drainTimedOut "servers") |>.finish outcome led)
  | handBack {activity : Activity} {r' : Run} (hphase : r.phase = .releasing activity)
      (h : r.handBack activity = some r') : Decides r r'

theorem decides_of_decide? (h : r.decide? = some r') : r.Decides r' := by
  unfold decide? at h
  cases hphase : r.phase with
  | electing activity =>
    simp only [hphase] at h
    split_ifs at h with hsignal
    · cases h
      exact .abandon hphase hsignal
    · split at h
      · rename_i error hexit
        cases h
        exact .failEarly hphase hexit
      · rename_i hexit
        exact .elect hphase (eq_false_of_ne_true hsignal) hexit h
  | leading =>
    simp only [hphase] at h
    split_ifs at h with hsignal hlost
    · cases h
      exact .stop hphase hsignal
    · cases h
      exact .lose hphase hlost
    · split at h
      · rename_i error hexit
        cases h
        exact .fail hphase hexit
      · obtain ⟨⟨t, ending⟩, hunnoted, rfl⟩ := Option.map_eq_some_iff.1 h
        exact .note hphase hunnoted
  | drainingControllers outcome deadline =>
    simp only [hphase] at h
    split_ifs at h with hover hlate
    · cases h
      exact .drained hphase hover
    · cases h
      exact .abort hphase hlate
  | drainingServers outcome led deadline =>
    simp only [hphase] at h
    split_ifs at h with hover hlate
    · cases h
      exact .finish hphase hover
    · cases h
      exact .abortServers hphase hlate
  | releasing activity =>
    simp only [hphase] at h
    exact .handBack hphase h
  | «over» result => simp [hphase] at h
  | crashed => simp [hphase] at h

/-- What comes of the acquisition of the lease: it goes on, the manager leads, or it dies. -/
theorem elect_cases {activity : Activity} (h : r.elect activity = some r') :
    ∃ world progress, settle r.world activity = some (world, progress) ∧
      ((∃ next log, progress = .inl next ∧
          r' = { r with world := world, phase := .electing next, log := log } ∧
          (log = r.log ∨ ∃ verdict, log = (r.time, .attemptFailed verdict) :: r.log)) ∨
        (progress = .inr .acquired ∧
          r' = ({ r with world := world }.note .leaseAcquired).lead) ∨
        ((∃ outcome, progress = .inr outcome) ∧
          r' = { r with world := world, phase := .crashed })) := by
  obtain ⟨⟨world, progress⟩, hsettle, rfl⟩ := Option.map_eq_some_iff.1 h
  refine ⟨world, progress, hsettle, ?_⟩
  rcases progress with next | outcome
  · refine .inl ⟨next, ?_⟩
    dsimp only
    split
    · exact ⟨_, rfl, rfl, .inr ⟨_, rfl⟩⟩
    · exact ⟨_, rfl, rfl, .inl rfl⟩
  · cases outcome with
    | acquired => exact .inr (.inl ⟨rfl, rfl⟩)
    | _ => exact .inr (.inr ⟨⟨_, rfl⟩, rfl⟩)

/-- What comes of the giving back of the lease: it goes on, or the run is over without a failure. -/
theorem handBack_cases {activity : Activity} (h : r.handBack activity = some r') :
    ∃ world progress, settle r.world activity = some (world, progress) ∧
      ((∃ next, progress = .inl next ∧
          r' = { r with world := world, phase := .releasing next }) ∨
        ((∃ outcome, progress = .inr outcome) ∧ ∃ log,
          r' = { r with world := world, phase := .over none, log := log } ∧
          (log = r.log ∨ ∃ error, log = (r.time, .releaseFailed error) :: r.log))) := by
  obtain ⟨⟨world, progress⟩, hsettle, rfl⟩ := Option.map_eq_some_iff.1 h
  refine ⟨world, progress, hsettle, ?_⟩
  rcases progress with next | outcome
  · exact .inl ⟨next, rfl, rfl⟩
  · refine .inr ⟨⟨outcome, rfl⟩, ?_⟩
    rcases outcome with _ | _ | _ | (error | done) | _ | _
    case released.error => exact ⟨_, rfl, .inr ⟨error, rfl⟩⟩
    all_goals exact ⟨_, rfl, .inl rfl⟩

/-- What comes of the end of the drains: the lease is given back where nothing failed and the
manager has led, and otherwise the run is over. -/
theorem finish_cases (r : Run) (outcome : Option Error) (led : Bool) :
    (led = true ∧ outcome = none ∧ ∃ world activity,
        r.world.beginRelease 0 = some (world, activity) ∧
        r.finish outcome led = { r with world := world, phase := .releasing activity }) ∨
      ∃ world log, r.finish outcome led =
          { r with world := world, phase := .over outcome, log := log } ∧
        (world = r.world ∧ log = r.log ∨
          ∃ error, outcome = some error ∧ world = r.world.dropGuard 0 ∧
            log = (r.time, .stoppedWithError error) :: r.log) := by
  unfold finish
  cases led with
  | false => exact .inr ⟨_, _, rfl, .inl ⟨rfl, rfl⟩⟩
  | true =>
    cases outcome with
    | none =>
      rcases hbegin : r.world.beginRelease 0 with _ | ⟨world, activity⟩
      · exact .inr ⟨_, _, rfl, .inl ⟨rfl, rfl⟩⟩
      · exact .inl ⟨rfl, rfl, world, activity, rfl, rfl⟩
    | some error => exact .inr ⟨_, _, rfl, .inr ⟨error, rfl, rfl, rfl⟩⟩

/-- What holds while the lease is given back and once the run is over holds behind the drains. -/
theorem phase_finish {motive : Phase → Prop} (r : Run) (outcome : Option Error) (led : Bool)
    (hreleasing : ∀ activity, motive (.releasing activity)) (hover : motive (.over outcome)) :
    motive (r.finish outcome led).phase := by
  rcases r.finish_cases outcome led with ⟨-, -, world, activity, -, heq⟩ | ⟨world, log, heq, -⟩
  · rw [heq]
    exact hreleasing activity
  · rw [heq]
    exact hover

/-- The end of the drains leaves all tasks alone. -/
theorem tasks_finish (r : Run) (outcome : Option Error) (led : Bool) :
    (r.finish outcome led).controllers = r.controllers ∧
      (r.finish outcome led).servers = r.servers := by
  rcases r.finish_cases outcome led with ⟨-, -, world, activity, -, heq⟩ | ⟨world, log, heq, -⟩
  all_goals
    rw [heq]
    exact ⟨rfl, rfl⟩

/-- What comes of the end of a controller that the manager takes note of. -/
theorem noteEnding_cases (r : Run) (t : ControllerTask) (ending : Ending) :
    (∃ error, ControllerTask.failure? t.name ending = some error ∧ r.noteEnding t ending =
        { r with controllers := noteEnd t.name r.controllers }.conclude (some error)) ∨
      ending = .finished ∧ r.noteEnding t ending =
        { r with controllers := noteEnd t.name r.controllers }.note
          (.controllerFinished t.name) := by
  cases ending with
  | finished => exact .inr ⟨rfl, rfl⟩
  | failed error => exact .inl ⟨_, rfl, rfl⟩
  | crashed message => exact .inl ⟨_, rfl, rfl⟩

/-! ### What stays -/

/-- What nothing changes about a run. -/
structure Keeps (r r' : Run) : Prop where
  staff : r'.staff = r.staff
  context : r'.context = r.context
  grace : r'.grace = r.grace

theorem Keeps.refl (r : Run) : r.Keeps r := ⟨rfl, rfl, rfl⟩

theorem Keeps.trans (h : r.Keeps r') (h' : r'.Keeps r'') : r.Keeps r'' :=
  ⟨h'.staff.trans h.staff, h'.context.trans h.context, h'.grace.trans h.grace⟩

/-- What a decision does not change: the clock, whose turn it is, and what comes from outside. -/
structure Stays (r r' : Run) : Prop extends Keeps r r' where
  time : r'.time = r.time
  turn : r'.turn = r.turn
  signal : r'.signal = r.signal
  agenda : r'.agenda = r.agenda

theorem stays_finish (r : Run) (outcome : Option Error) (led : Bool) :
    r.Stays (r.finish outcome led) := by
  rcases r.finish_cases outcome led with ⟨-, -, world, activity, -, heq⟩ | ⟨world, log, heq, -⟩
  · rw [heq]
    exact ⟨⟨rfl, rfl, rfl⟩, rfl, rfl, rfl, rfl⟩
  · rw [heq]
    exact ⟨⟨rfl, rfl, rfl⟩, rfl, rfl, rfl, rfl⟩

theorem Decides.stays (h : r.Decides r') : r.Stays r' := by
  cases h with
  | abandon | failEarly | stop | lose | fail | drained | abort =>
    exact ⟨⟨rfl, rfl, rfl⟩, rfl, rfl, rfl, rfl⟩
  | elect hphase hsignal hexit h =>
    obtain ⟨world, progress, -, ⟨next, log, -, rfl, -⟩ | ⟨-, rfl⟩ | ⟨-, rfl⟩⟩ := elect_cases h
    all_goals exact ⟨⟨rfl, rfl, rfl⟩, rfl, rfl, rfl, rfl⟩
  | @note t ending hphase h =>
    rcases r.noteEnding_cases t ending with ⟨error, -, heq⟩ | ⟨-, heq⟩
    all_goals
      rw [heq]
      exact ⟨⟨rfl, rfl, rfl⟩, rfl, rfl, rfl, rfl⟩
  | finish hphase hover => exact stays_finish r _ _
  | @abortServers outcome led deadline hphase hlate =>
    obtain ⟨⟨hstaff, hcontext, hgrace⟩, htime, hturn, hsignal, hagenda⟩ := stays_finish
      (Run.note { r with servers := r.servers.map ServerTask.abort } (.drainTimedOut "servers"))
      outcome led
    exact ⟨⟨hstaff, hcontext, hgrace⟩, htime, hturn, hsignal, hagenda⟩
  | handBack hphase h =>
    obtain ⟨world, progress, -, ⟨next, -, rfl⟩ | ⟨-, log, rfl, -⟩⟩ := handBack_cases h
    all_goals exact ⟨⟨rfl, rfl, rfl⟩, rfl, rfl, rfl, rfl⟩

/-! ### Ticks -/

/-- The kinds of ticks: the manager decides, or yields to the tasks; a task moves, or all of them
rest; the clock goes on. -/
inductive Advances (r : Run) : Run → Prop
  | decide {r' : Run} (hturn : r.turn ≠ .tasks) (h : r.decide? = some r') :
      Advances r { r' with turn := .opening }
  | yield (hturn : r.turn = .opening) (h : r.decide? = none) :
      Advances r { r with turn := .tasks }
  | move {r' : Run} (hturn : r.turn = .tasks) (h : r.move? = some r') : Advances r r'
  | rest (hturn : r.turn = .tasks) (h : r.move? = none) : Advances r { r with turn := .closing }
  | wait {time : Nat} (hturn : r.turn = .closing) (h : r.decide? = none)
      (hnext : r.nextTime = some time) : Advances r (r.arrive (max time r.time))

theorem advances_of_tick (h : r.tick limit = some r') : r.Advances r' := by
  unfold tick at h
  split_ifs at h
  cases hturn : r.turn with
  | opening =>
    simp only [hturn] at h
    cases hdecide : r.decide? with
    | none =>
      simp only [hdecide, Option.some.injEq] at h
      subst h
      exact .yield hturn hdecide
    | some decided =>
      simp only [hdecide, Option.some.injEq] at h
      subst h
      have hstays := (decides_of_decide? hdecide).stays.turn.trans hturn
      have heq : decided = { decided with turn := .opening } := by rw [← hstays]
      rw [heq]
      exact .decide (by rw [hturn]; decide) hdecide
  | tasks =>
    simp only [hturn] at h
    cases hmove : r.move? with
    | none =>
      simp only [hmove, Option.some.injEq] at h
      subst h
      exact .rest hturn hmove
    | some moved =>
      simp only [hmove, Option.some.injEq] at h
      subst h
      exact .move hturn hmove
  | closing =>
    simp only [hturn] at h
    cases hdecide : r.decide? with
    | some decided =>
      simp only [hdecide, Option.some.injEq] at h
      subst h
      exact .decide (by rw [hturn]; decide) hdecide
    | none =>
      simp only [hdecide] at h
      split at h
      · rename_i time hnext
        split_ifs at h
        cases h
        exact .wait hturn hdecide hnext
      · cases h

/-- What the clock changes: besides the time, only what comes from outside and what the renewals
do. -/
theorem arrive_cases (r : Run) (time : Nat) : ∃ signal server log,
    r.arrive time =
      { r with
        time := time
        turn := .opening
        signal := signal
        agenda := r.agenda.filter (time < ·.1)
        world := World.renewAll { r.world with time := time, server := server }
        log := log } := by
  unfold arrive
  dsimp only
  obtain ⟨signal, server, log, hsuffer⟩ := foldl_suffer_cases
    { r with
      time := time
      turn := .opening
      world := { r.world with time := time }
      agenda := r.agenda.filter (time < ·.1) }
    (r.agenda.filter (·.1 ≤ time))
  rw [hsuffer]
  exact ⟨signal, server, log, rfl⟩

theorem Advances.keeps (h : r.Advances r') : r.Keeps r' := by
  cases h with
  | decide hturn h =>
    obtain ⟨hstaff, hcontext, hgrace⟩ := (decides_of_decide? h).stays.toKeeps
    exact ⟨hstaff, hcontext, hgrace⟩
  | yield | rest => exact ⟨rfl, rfl, rfl⟩
  | move hturn h =>
    obtain ⟨controllers, servers, log, rfl, -⟩ := move?_cases h
    exact ⟨rfl, rfl, rfl⟩
  | @wait time hturn h hnext =>
    obtain ⟨signal, server, log, heq⟩ := r.arrive_cases (max time r.time)
    rw [heq]
    exact ⟨rfl, rfl, rfl⟩

/-! ### Courses -/

/-- One thing that happens to a run. -/
inductive Happens : Run → Run → Prop
  | tick {r r' : Run} (limit : Nat) (h : r.tick limit = some r') : Happens r r'
  | serve {r : Run} (server : Server) :
      Happens r { r with world := { r.world with server := server } }
  | behave {r : Run} (i : Nat) (t : ControllerTask) (state : ControllerState)
      (ht : r.controllers[i]? = some t) (hruns : t.isOver = false) (hown : state.Own) :
      Happens r { r with controllers := r.controllers.set i { t with state := state } }
  | destine {r : Run} (i : Nat) (t : ServerTask) (exit : Option (Nat × Option Error))
      (lingering : Nat) (ht : r.servers[i]? = some t) (hruns : t.isOver = false) :
      Happens r
        { r with servers := r.servers.set i { t with exit := exit, lingering := lingering } }

/-- A run comes from another one, by whatever happens. -/
abbrev Course : Run → Run → Prop := Relation.ReflTransGen Happens

theorem Happens.keeps (h : r.Happens r') : r.Keeps r' := by
  cases h with
  | tick limit h => exact (advances_of_tick h).keeps
  | serve | behave | destine => exact ⟨rfl, rfl, rfl⟩

/-- A run keeps its staff, what the controllers are started with, and the time to stop. -/
theorem Course.keeps (h : r.Course r') : r.Keeps r' := by
  induction h with
  | refl => exact .refl r
  | tail _ h ih => exact ih.trans h.keeps

theorem course_ticks (r : Run) (limit steps : Nat) : r.Course (r.ticks limit steps) := by
  induction steps generalizing r with
  | zero => exact .refl
  | succ steps ih =>
    unfold ticks
    cases htick : r.tick limit with
    | none => exact .refl
    | some r' => exact .head (.tick limit htick) (ih r')

/-! ### The first instant -/

/-- A run before anything was done for its manager. -/
def blank (m : Manager) (s : Surroundings) (servers : List ServerTask) : Run where
  time := 0
  turn := .opening
  phase := .leading
  signal := s.signal
  stopped := none
  grace := m.grace
  staff := m.controllers.entries
  context := m.context
  controllers := []
  servers := servers
  world := .initial s.clock s.server s.connected (m.election.toList.map LeaderElection.elector)
  agenda := s.agenda
  log := []

/-- How a run starts: a server cannot listen, the webhooks cannot be served together, the manager
seeks the lease, or it leads at once. -/
theorem start_cases (m : Manager) (s : Surroundings) :
    (∃ error, serverTasks m s.site = .error error ∧
        start m s = (blank m s []).enter (.over (some error))) ∨
      ∃ servers, serverTasks m s.site = .ok servers ∧
        (Webhook.Service.build? m.webhooks = none ∧ start m s = (blank m s []).enter .crashed ∨
          (Webhook.Service.build? m.webhooks).isSome = true ∧
            ((∃ election, m.election = some election ∧
                start m s = ((blank m s servers).note .electionBegan).enter
                  (.electing ((blank m s servers).world.beginAcquire 0 none))) ∨
              m.election = none ∧ start m s = (blank m s servers).lead)) := by
  unfold start
  dsimp only
  cases hservers : serverTasks m s.site with
  | error error => exact .inl ⟨error, rfl, rfl⟩
  | ok servers =>
    refine .inr ⟨servers, rfl, ?_⟩
    cases hbuild : Webhook.Service.build? m.webhooks with
    | none => exact .inl ⟨rfl, rfl⟩
    | some service =>
      cases helection : m.election with
      | none => exact .inr ⟨rfl, .inr ⟨rfl, by simp [blank, helection]⟩⟩
      | some election => exact .inr ⟨rfl, .inl ⟨election, rfl, by simp [blank, helection]⟩⟩

/-- **Every run is governed** where there is an election, in all of its courses. -/
theorem Course.governed {m : Manager} {s : Surroundings} (h : (start m s).Course r)
    (helection : m.election.isSome) :
    r.Governed m.grace := by
  induction h with
  | refl => exact governed_start helection
  | tail _ hhappens ih =>
    cases hhappens with
    | tick limit htick => exact ih.tick htick
    | serve | destine => exact ⟨ih.orderly, ih.settled, ih.grace_eq⟩
    | behave i t state ht hruns hown =>
      exact ⟨ih.orderly.behave ht hruns state, ih.settled, ih.grace_eq⟩

/-! ### The election -/

/-- The manager seeks the lease: none of its controllers was called, its elector has no guard, and
whatever the elector writes is a lease of which it is the holder then. -/
structure Seeking (election : LeaderElection) (phase : AcquirePhase) (r : Run) : Prop where
  phase_eq : r.phase = .electing (.acquiring 0 none phase)
  controllers : r.controllers = []
  stopped : r.stopped = none
  candidates : r.world.candidates = [⟨election.elector, false, none⟩]
  claims : phase.Proposes (·.Claims election.elector.identity)

variable {m : Manager} {s : Surroundings} {election : LeaderElection} {phase : AcquirePhase}

theorem Seeking.candidate? (h : r.Seeking election phase) :
    r.world.candidate? 0 = some ⟨election.elector, false, none⟩ := by
  rw [World.candidate?, h.candidates]
  rfl

/-- What a manager does to acquire the lease. -/
theorem Seeking.seeks (h : r.Seeking election phase) {activity : Activity}
    (hactivity : r.phase = .electing activity) {world : World} {progress : Progress}
    (hsettle : settle r.world activity = some (world, progress)) :
    r.world.Seeks 0 ⟨election.elector, false, none⟩ phase world progress := by
  obtain rfl : Activity.acquiring 0 none phase = activity :=
    Phase.electing.inj (h.phase_eq.symm.trans hactivity)
  exact World.seeks_of_settle h.candidate? hsettle

/-- No renewal moves where nobody has a guard. -/
theorem candidates_renewAll {w : World} {c : Candidate} (h : w.candidates = [c])
    (hguard : c.guard = none) : w.renewAll.candidates = [c] := by
  refine World.renewAll_induction (P := fun w => w.candidates = [c])
    (fun {w w' i} hw hrenews => ?_) h
  have hnone : ∀ {d : Candidate} {g : Simulation.Guard}, w.candidate? i = some d →
      d.guard ≠ some g := by
    intro d g hd
    have hmem : d ∈ [c] := hw ▸ List.mem_of_getElem? hd
    rw [List.mem_singleton.1 hmem, hguard]
    exact nofun
  cases hrenews with
  | idle => exact hw
  | begin hc hg => exact absurd hg (hnone hc)
  | send hc hg => exact absurd hg (hnone hc)
  | hear hc hg => exact absurd hg (hnone hc)
  | giveUp hc hg => exact absurd hg (hnone hc)

/-- Only an acquisition that goes on leaves a manager waiting for the lease. -/
theorem Decides.elect_of_electing (h : r.Decides r') {next : Activity}
    (hnext : r'.phase = .electing next) :
    ∃ activity, r.phase = .electing activity ∧ r.elect activity = some r' := by
  cases h with
  | elect hphase hsignal hexit helect => exact ⟨_, hphase, helect⟩
  | @note t ending hphase hunnoted =>
    rcases r.noteEnding_cases t ending with ⟨error, -, heq⟩ | ⟨-, heq⟩
    · rw [heq] at hnext
      cases hnext
    · rw [heq] at hnext
      exact nomatch hphase.symm.trans hnext
  | finish | abortServers =>
    exact absurd hnext (phase_finish (motive := (· ≠ .electing next)) _ _ _ (fun _ => nofun) nofun)
  | handBack hphase hback =>
    obtain ⟨world, progress, -, ⟨next, -, rfl⟩ | ⟨-, log, rfl, -⟩⟩ := handBack_cases hback
    all_goals cases hnext
  | _ => cases hnext

/-- Seeking is about the phase, the controllers and the candidates. -/
theorem Seeking.congr (h : r.Seeking election phase) (hphase : r'.phase = r.phase)
    (hcontrollers : r'.controllers = r.controllers) (hstopped : r'.stopped = r.stopped)
    (hcandidates : r'.world.candidates = r.world.candidates) : r'.Seeking election phase :=
  ⟨hphase.trans h.phase_eq, hcontrollers.trans h.controllers, hstopped.trans h.stopped,
    hcandidates.trans h.candidates, h.claims⟩

/-- An acquisition that goes on is one of the same elector. -/
theorem Seeking.elect (h : r.Seeking election phase) {activity next : Activity}
    (hactivity : r.phase = .electing activity) (helect : r.elect activity = some r')
    (hnext : r'.phase = .electing next) : ∃ phase', r'.Seeking election phase' := by
  obtain ⟨world, progress, hsettle, ⟨next, log, rfl, rfl, -⟩ | ⟨-, rfl⟩ | ⟨-, rfl⟩⟩ :=
    elect_cases helect
  · obtain ⟨hcandidates, phase', rfl, hclaims⟩ :=
      (h.seeks hactivity hsettle).goesOn h.claims (World.admits_claims _ _)
    exact ⟨phase', rfl, h.controllers, h.stopped, hcandidates.trans h.candidates, hclaims⟩
  · cases hnext
  · cases hnext

/-- The elector that is sought with stays sought with, whatever happens. -/
theorem Happens.seeking (hhappens : r.Happens r') (h : ∀ activity, r.phase = .electing activity →
      ∃ election phase, m.election = some election ∧ r.Seeking election phase)
    {next : Activity} (hnext : r'.phase = .electing next) :
    ∃ election phase, m.election = some election ∧ r'.Seeking election phase := by
  cases hhappens with
  | serve server =>
    obtain ⟨election, phase, helection, hseeking⟩ := h next hnext
    exact ⟨election, phase, helection, hseeking.congr rfl rfl rfl rfl⟩
  | behave i t state ht hruns hown =>
    obtain ⟨election, phase, helection, hseeking⟩ := h next hnext
    rw [hseeking.controllers] at ht
    cases ht
  | destine i t exit lingering ht hruns =>
    obtain ⟨election, phase, helection, hseeking⟩ := h next hnext
    exact ⟨election, phase, helection, hseeking.congr rfl rfl rfl rfl⟩
  | tick limit htick =>
    cases advances_of_tick htick with
    | decide hturn hdecide =>
      obtain ⟨activity, hphase, helect⟩ := (decides_of_decide? hdecide).elect_of_electing hnext
      obtain ⟨election, phase, helection, hseeking⟩ := h activity hphase
      obtain ⟨phase', hseeking'⟩ := hseeking.elect hphase helect hnext
      exact ⟨election, phase', helection, hseeking'.congr rfl rfl rfl rfl⟩
    | yield hturn hdecide | rest hturn hmove =>
      obtain ⟨election, phase, helection, hseeking⟩ := h next hnext
      exact ⟨election, phase, helection, hseeking.congr rfl rfl rfl rfl⟩
    | move hturn hmove =>
      obtain ⟨controllers, servers, log, rfl, hidle⟩ := move?_cases hmove
      obtain ⟨election, phase, helection, hseeking⟩ := h next hnext
      exact ⟨election, phase, helection,
        hseeking.congr rfl (hidle (by rw [hseeking.controllers]; rfl)) rfl rfl⟩
    | @wait time hturn hdecide htime =>
      obtain ⟨signal, server, log, heq⟩ := r.arrive_cases (max time r.time)
      rw [heq] at hnext ⊢
      obtain ⟨election, phase, helection, hseeking⟩ := h next hnext
      have hcandidates : (World.renewAll
          { r.world with time := max time r.time, server := server }).candidates =
            [⟨election.elector, false, none⟩] :=
        candidates_renewAll hseeking.candidates rfl
      exact ⟨election, phase, helection,
        hseeking.congr rfl rfl rfl (hcandidates.trans hseeking.candidates.symm)⟩

theorem seeking_start {activity : Activity} (hphase : (start m s).phase = .electing activity) :
    ∃ election phase, m.election = some election ∧ (start m s).Seeking election phase := by
  obtain ⟨error, -, heq⟩ | ⟨servers, -, ⟨-, heq⟩ | ⟨-, ⟨election, helection, heq⟩ | ⟨-, heq⟩⟩⟩ :=
    start_cases m s
  case inr.inr.inl =>
    rw [heq]
    exact ⟨election, _, helection, rfl, rfl, rfl,
      by simp [blank, note, enter, World.initial, helection],
      Election.Attempt.proposes_reading _ _⟩
  all_goals
    rw [heq] at hphase
    cases hphase

/-- **A manager that waits for the lease seeks it**, in every course of its run. -/
theorem Course.seeking (h : (start m s).Course r) {activity : Activity}
    (hphase : r.phase = .electing activity) :
    ∃ election phase, m.election = some election ∧ r.Seeking election phase := by
  induction h generalizing activity with
  | refl => exact seeking_start hphase
  | tail _ hhappens ih => exact hhappens.seeking (fun _ => ih) hphase

end Run

end ControllerManager.Manager
