import ControllerManager.Proofs.Manager.Outcome
import ControllerManager.Proofs.Manager.Registration
import ControllerManager.Proofs.Simulation.Waiting
import Mathlib.Algebra.Order.BigOperators.Group.List
import Mathlib.Algebra.Order.Ring.Nat
import Mathlib.Data.Prod.Lex
import Mathlib.Tactic.Set
import Mathlib.Tactic.SplitIfs

/-!
# How a run comes to its end

Once an event that ends a run is there, the run comes to its end by itself: its tasks have a limited
time to stop, and the release of the lease has two requests at most. Every tick makes progress
towards the end. The clock cannot tarry either, since the renewals rest between their attempts.

## Main definitions

* `Manager.Rests` — the renewals of a manager rest between their attempts.
* `Manager.Run.Steady` — what every run keeps of its elector.
* `Manager.Run.effort` — what is left to do until the end.

## Main results

* `Manager.rests_build` — the renewals of every manager that was built rest.
* `Manager.Run.Course.steady` — every run is steady.
* `Manager.Run.Advances.effort_lt` — every tick makes progress.
* `Manager.Run.exists_ticks_over` — a run with an event that ends it comes to its end.
-/

namespace ControllerManager.Manager

open Cluster Election Simulation

/-- How often a server can go on. -/
def ServerTask.movesLeft (t : ServerTask) : Nat := if t.isOver then 0 else 1

/-- The renewals of a manager rest between their attempts. -/
def Rests (m : Manager) : Prop :=
  ∀ election, m.election = some election → 0 < election.elector.timing.retryInterval

theorem timing_electionOf {options : Options} {election : LeaderElection}
    (h : electionOf options = .ok (some election)) : election.elector.timing = .standard := by
  unfold electionOf at h
  split_ifs at h
  · cases h
  · simp only [bind, Except.bind, pure, Except.pure] at h
    split at h
    · cases h
    · split at h
      · cases h
      · cases h
        rfl

/-- The renewals of every manager that was built rest, for two seconds each time. -/
theorem rests_build {topology : Topology} {options : Options} {m : Manager}
    (h : build topology options = .ok m) : m.Rests := by
  intro election helection
  simp only [build, bind, Except.bind, pure, Except.pure] at h
  split at h
  · cases h
  · split at h
    · cases h
    · split at h
      · cases h
      · rename_i heq
        cases h
        obtain rfl : _ = some election := helection
        rw [timing_electionOf heq]
        decide

theorem Rests.registerAll {m : Manager} (h : m.Rests) (registrations : List Registration) :
    (m.registerAll registrations).1.Rests := by
  intro election helection
  exact h election ((m.furnished_registerAll registrations).election.symm.trans helection)

namespace Run

variable {m : Manager} {s : Surroundings} {r r' : Run} {o : Option Error}

/-! ### The elector -/

/-- The world of a manager: its elector, whose renewals have nothing left to do before the clock
goes on. -/
def Fit (m : Manager) (w : World) : Prop :=
  (m.election = none ∧ w.candidates = []) ∨
    ∃ election, m.election = some election ∧ World.SoleWaits 0 election.elector w

variable {w w' : World}

theorem Fit.congr (h : Fit m w) (hcandidates : w'.candidates = w.candidates)
    (htime : w'.time = w.time) : Fit m w' := by
  rcases h with ⟨hnone, hempty⟩ | ⟨election, helection, c, hc, he, hwaits⟩
  · exact .inl ⟨hnone, hcandidates.trans hempty⟩
  · exact .inr ⟨election, helection, c, hcandidates.trans hc, he, htime ▸ hwaits⟩

/-- The candidate of a manager is that of its election. -/
theorem Fit.candidate {c : Candidate} (h : Fit m w) (hc : w.candidate? 0 = some c) :
    ∃ election, m.election = some election ∧ c.elector = election.elector ∧
      w.candidates = [c] := by
  rcases h with ⟨-, hempty⟩ | ⟨election, helection, d, hd, he, -⟩
  · rw [World.candidate?, hempty] at hc
    cases hc
  · obtain rfl : d = c := Option.some.inj ((World.candidate?_sole hd).symm.trans hc)
    exact ⟨election, helection, he, hd⟩

/-- A candidate may have another guard that waits, or none. -/
theorem Fit.setGuard (h : Fit m w) {c : Candidate} (hc : w.candidate? 0 = some c) (leads : Bool)
    (guard : Option Guard) (hguard : ∀ g, guard = some g → g.renewal.Waits w.time 0 g.due)
    (hcandidates :
      w'.candidates = (w.setCandidate 0 { c with isLeader := leads, guard := guard }).candidates)
    (htime : w'.time = w.time) : Fit m w' := by
  obtain ⟨election, helection, he, hsole⟩ := h.candidate hc
  refine .inr ⟨election, helection, { c with isLeader := leads, guard := guard }, ?_, he, ?_⟩
  · rw [hcandidates, World.setCandidate, hsole]
    rfl
  · rw [htime]
    exact hguard

theorem Fit.dropGuard (h : Fit m w) : Fit m (w.dropGuard 0) := by
  unfold World.dropGuard
  split
  · rename_i c hc
    split_ifs
    · exact h.setGuard hc false none (fun _ hg => nomatch hg) rfl rfl
    · exact h
  · exact h

/-- The renewals of a lease that is given back have ended. -/
theorem Fit.beginRelease (h : Fit m w) {activity : Activity}
    (hbegin : w.beginRelease 0 = some (w', activity)) :
    Fit m w' ∧ w'.time = w.time ∧ m.election.isSome = true ∧
      activity = .releasing 0 .reading none := by
  obtain ⟨c, hc, g, hg, heq⟩ : ∃ c, w.candidate? 0 = some c ∧ ∃ g, c.guard = some g ∧
      (w.setCandidate 0 { c with guard := some { g with renewal := .stopped, due := none } },
        Activity.releasing 0 .reading none) = (w', activity) := by
    simpa [World.beginRelease, Option.bind_eq_some_iff] using hbegin
  cases heq
  obtain ⟨election, helection, -, -⟩ := h.candidate hc
  refine ⟨h.setGuard hc c.isLeader (some { g with renewal := .stopped, due := none })
    (fun g' hg' => ?_) rfl rfl, rfl, by rw [helection]; rfl, rfl⟩
  cases hg'
  trivial

theorem Fit.renewAll (h : Fit m w) (hrests : m.Rests) (time : Nat) (server : Server) :
    Fit m (World.renewAll { w with time := time, server := server }) := by
  rcases h with ⟨hnone, hempty⟩ | ⟨election, helection, hwaits⟩
  · refine .inl ⟨hnone, ?_⟩
    have hnobody : ∀ {w w' : World} {i : Nat}, w.candidates = [] → w.Renews i w' →
        w'.candidates = [] := by
      intro w w' i hw hrenews
      have hnone : ∀ {c}, w.candidate? i ≠ some c := by
        intro c hc
        rw [World.candidate?, hw] at hc
        cases hc
      cases hrenews with
      | idle => exact hw
      | begin hc | send hc | hear hc | giveUp hc => exact absurd hc hnone
    exact World.renewAll_induction (P := fun w => w.candidates = []) hnobody hempty
  · have hserved : World.SoleWaits 0 election.elector { w with server := server } := hwaits
    exact .inr ⟨election, helection, hserved.renewAll (hrests election helection)⟩

/-- An acquisition leaves the world fit. -/
theorem Fit.seeks (h : Fit m w) (hrests : m.Rests) {c : Candidate} (hc : w.candidate? 0 = some c)
    {phase : AcquirePhase} {progress : Progress} (hseeks : w.Seeks 0 c phase w' progress) :
    Fit m w' := by
  cases hseeks with
  | retry => exact h
  | send hsends => exact h.congr hsends.candidates hsends.time
  | goOn hhears | pause hhears | die hhears => exact h.congr hhears.candidates hhears.time
  | @gain a due w₁ answer hold hhears =>
    obtain ⟨election, helection, he, hsole⟩ := h.candidate hc
    have h₁ : Fit m w₁ := h.congr hhears.candidates hhears.time
    have hc₁ : w₁.candidate? 0 = some c := World.candidate?_sole (hhears.candidates.trans hsole)
    refine h₁.setGuard hc₁ c.guard.isNone (some ⟨.start c.elector.timing w₁.time, none, false⟩)
      (fun g hg => ?_) rfl rfl
    cases hg
    exact Renewal.waits_start (he ▸ hrests election helection)

/-- A release leaves the world fit. -/
theorem Fit.returns (h : Fit m w) {c : Candidate} {release : Release} {due : Option Nat}
    {progress : Progress} (hreturns : w.Returns 0 c release due w' progress) : Fit m w' := by
  cases hreturns with
  | send hsends => exact h.congr hsends.candidates hsends.time
  | goOn hhears => exact h.congr hhears.candidates hhears.time
  | finish hhears => exact (h.congr hhears.candidates hhears.time).dropGuard

/-- What every run keeps of its elector. -/
structure Steady (m : Manager) (r : Run) : Prop where
  time : r.world.time = r.time
  fit : Fit m r.world
  releasing : ∀ activity, r.phase = .releasing activity →
    m.election.isSome = true ∧ ∃ release due, activity = .releasing 0 release due

/-- A run whose lease is given back has a candidate. -/
theorem Steady.candidate {activity : Activity} (h : r.Steady m)
    (hphase : r.phase = .releasing activity) : ∃ c, r.world.candidate? 0 = some c := by
  obtain ⟨helection, -⟩ := h.releasing activity hphase
  rcases h.fit with ⟨hnone, -⟩ | ⟨election, -, c, hc, -⟩
  · rw [hnone] at helection
    cases helection
  · exact ⟨c, World.candidate?_sole hc⟩

theorem Steady.congr (h : r.Steady m) (htime : r'.time = r.time)
    (hworld : r'.world.candidates = r.world.candidates) (hclock : r'.world.time = r.world.time)
    (hphase : ∀ activity, r'.phase = .releasing activity → r.phase = .releasing activity) :
    r'.Steady m :=
  ⟨hclock.trans (h.time.trans htime.symm), h.fit.congr hworld hclock,
    fun activity hr' => h.releasing activity (hphase activity hr')⟩

theorem Steady.finish (h : r.Steady m) (outcome : Option Error) (led : Bool) :
    (r.finish outcome led).Steady m := by
  rcases r.finish_cases outcome led with ⟨-, -, world, activity, hbegin, heq⟩ |
    ⟨world, log, heq, ⟨rfl, -⟩ | ⟨error, -, rfl, -⟩⟩
  · obtain ⟨hfit, htime, helection, rfl⟩ := h.fit.beginRelease hbegin
    rw [heq]
    exact ⟨htime.trans h.time, hfit, fun _ hr => ⟨helection, _, _, (Phase.releasing.inj hr).symm⟩⟩
  · rw [heq]
    exact ⟨h.time, h.fit, fun _ hr => nomatch hr⟩
  · rw [heq]
    exact ⟨(World.dropGuard_time _ 0).trans h.time, h.fit.dropGuard, fun _ hr => nomatch hr⟩

/-- What comes of the giving back of the lease. -/
theorem Steady.handBack {activity : Activity} (h : r.Steady m)
    (hphase : r.phase = .releasing activity) (hback : r.handBack activity = some r') :
    ∃ c release due world progress, r.world.candidate? 0 = some c ∧
      activity = .releasing 0 release due ∧ r.world.Returns 0 c release due world progress ∧
      ((∃ next, progress = .inl next ∧
          r' = { r with world := world, phase := .releasing next }) ∨
        ((∃ outcome, progress = .inr outcome) ∧ ∃ log,
          r' = { r with world := world, phase := .over none, log := log })) := by
  obtain ⟨-, release, due, rfl⟩ := h.releasing activity hphase
  obtain ⟨c, hc⟩ := h.candidate hphase
  obtain ⟨world, progress, hsettle, hcases⟩ := handBack_cases hback
  refine ⟨c, release, due, world, progress, hc, rfl, World.returns_of_settle hc hsettle, ?_⟩
  exact hcases.imp id fun ⟨houtcome, log, heq, _⟩ => ⟨houtcome, log, heq⟩

theorem Decides.steady (hdecides : r.Decides r') (hcourse : (start m s).Course r)
    (hrests : m.Rests) (h : r.Steady m) : r'.Steady m := by
  cases hdecides with
  | abandon | failEarly | stop | lose | fail | drained | abort =>
    exact h.congr rfl rfl rfl fun _ hr => nomatch hr
  | elect hphase hsignal hexit helect =>
    obtain ⟨election, phase, helection, hseeking⟩ := hcourse.seeking hphase
    obtain ⟨world, progress, hsettle, hcases⟩ := elect_cases helect
    have hseeks := hseeking.seeks hphase hsettle
    have hfit := h.fit.seeks hrests hseeking.candidate? hseeks
    have htime := hseeks.time.trans h.time
    rcases hcases with ⟨next, log, -, rfl, -⟩ | ⟨-, rfl⟩ | ⟨-, rfl⟩
    all_goals exact ⟨htime, hfit, fun _ hr => nomatch hr⟩
  | @note t ending hphase hunnoted =>
    rcases r.noteEnding_cases t ending with ⟨error, -, heq⟩ | ⟨-, heq⟩
    · rw [heq]
      exact h.congr rfl rfl rfl fun _ hr => nomatch hr
    · rw [heq]
      exact h.congr rfl rfl rfl fun _ hr => hr
  | finish => exact h.finish _ _
  | @abortServers outcome led =>
    have hnoted : (Run.note { r with servers := r.servers.map ServerTask.abort }
        (.drainTimedOut "servers")).Steady m := h.congr rfl rfl rfl fun _ hr => hr
    exact hnoted.finish outcome led
  | handBack hphase hback =>
    obtain ⟨helection, -⟩ := h.releasing _ hphase
    obtain ⟨c, release, due, world, progress, -, -, hreturns, ⟨next, rfl, rfl⟩ | ⟨-, log, rfl⟩⟩ :=
      h.handBack hphase hback
    · refine ⟨hreturns.time.trans h.time, h.fit.returns hreturns, fun activity hr => ?_⟩
      cases hr
      cases hreturns with
      | send | goOn => exact ⟨helection, _, _, rfl⟩
    · exact ⟨hreturns.time.trans h.time, h.fit.returns hreturns, fun _ hr => nomatch hr⟩

theorem steady_start (m : Manager) (s : Surroundings) : (start m s).Steady m := by
  have hfit : Fit m (blank m s []).world := by
    cases helection : m.election with
    | none => exact .inl ⟨helection, by simp [blank, World.initial, helection]⟩
    | some election =>
      refine .inr ⟨election, helection, ⟨election.elector, false, none⟩, ?_, rfl,
        fun _ hg => by cases hg⟩
      simp [blank, World.initial, helection]
  obtain ⟨error, -, heq⟩ | ⟨servers, -, ⟨-, heq⟩ | ⟨-, ⟨election, -, heq⟩ | ⟨-, heq⟩⟩⟩ :=
    start_cases m s
  all_goals
    rw [heq]
    exact ⟨rfl, hfit, fun _ hr => by cases hr⟩

/-- **Every run is steady.** -/
theorem Course.steady (h : (start m s).Course r) (hrests : m.Rests) : r.Steady m := by
  induction h with
  | refl => exact steady_start m s
  | @tail b c hcourse hhappens ih =>
    cases hhappens with
    | serve | behave | destine => exact ih.congr rfl rfl rfl fun _ hr => hr
    | tick limit htick =>
      cases advances_of_tick htick with
      | decide hturn hdecide =>
        exact ((decides_of_decide? hdecide).steady hcourse hrests ih).congr rfl rfl rfl
          fun _ hr => hr
      | yield | rest => exact ih.congr rfl rfl rfl fun _ hr => hr
      | move hturn hmove =>
        obtain ⟨controllers, servers, log, rfl, -⟩ := move?_cases hmove
        exact ih.congr rfl rfl rfl fun _ hr => hr
      | @wait time =>
        obtain ⟨signal, server, log, heq⟩ := b.arrive_cases (max time b.time)
        rw [heq]
        exact ⟨World.renewAll_time _, ih.fit.renewAll hrests _ server, ih.releasing⟩

/-! ### Effort -/

/-- The steps of a release that are left, with the request under way or not. -/
def releaseRank : Activity → Nat
  | .releasing _ .reading none => 4
  | .releasing _ .reading (some _) => 3
  | .releasing _ (.clearing _) none => 2
  | _ => 1

/-- The phases that are left at most. -/
def phaseRank : Phase → Nat
  | .electing _ | .leading => 7
  | .drainingControllers _ _ => 6
  | .drainingServers _ _ _ => 5
  | .releasing activity => releaseRank activity
  | .over _ | .crashed => 0

/-- The time until the phase goes on by itself. -/
def slack (r : Run) : Nat := (phaseTime r.phase).elim 0 (· - r.time)

/-- How often the tasks can go on at most. -/
def movesLeft (r : Run) : Nat :=
  (r.controllers.map (·.state.movesLeft)).sum +
    (r.servers.map ServerTask.movesLeft).sum

/-- The turns until the clock goes on. Where a task has been kept from its move, it does not. -/
def turnRank (r : Run) : Nat :=
  match r.turn with
  | .opening => 2
  | .tasks => 1
  | .closing => if r.move?.isSome then 3 else 0

/-- What is left to do until the end. -/
def effort (r : Run) : ℕ ×ₗ ℕ ×ₗ ℕ ×ₗ ℕ ×ₗ ℕ :=
  toLex (phaseRank r.phase,
    toLex (r.slack, toLex (r.agenda.length, toLex (r.movesLeft, r.turnRank))))

theorem effort_lt_of_phaseRank (h : phaseRank r'.phase < phaseRank r.phase) :
    r'.effort < r.effort :=
  Prod.Lex.toLex_lt_toLex.2 (.inl h)

/-- Within a phase, what counts is the time first, and then what has to happen before it goes on. -/
theorem effort_lt_of_phase (hphase : r'.phase = r.phase)
    (h : r'.slack < r.slack ∨ r'.slack = r.slack ∧ (r'.agenda.length < r.agenda.length ∨
      r'.agenda.length = r.agenda.length ∧ (r'.movesLeft < r.movesLeft ∨
        r'.movesLeft = r.movesLeft ∧ r'.turnRank < r.turnRank))) :
    r'.effort < r.effort := by
  simp only [effort, Prod.Lex.toLex_lt_toLex]
  exact .inr ⟨congrArg phaseRank hphase, h⟩

/-! ### Tasks -/

theorem sum_set_lt {α : Type} (f : α → Nat) {l : List α} {i : Nat} {a b : α} (ha : l[i]? = some a)
    (hlt : f b < f a) : ((l.set i b).map f).sum < (l.map f).sum := by
  induction l generalizing i with
  | nil => cases ha
  | cons c l ih =>
    cases i with
    | zero =>
      obtain rfl : c = a := Option.some.inj ha
      simpa using hlt
    | succ i =>
      have := ih (i := i) ha
      simpa using this

/-- A move of a task uses one up. -/
theorem movesLeft_move (h : r.move? = some r') :
    r'.movesLeft < r.movesLeft ∧ r'.phase = r.phase ∧ r'.time = r.time ∧ r'.agenda = r.agenda := by
  rcases move_cases h with ⟨i, t, state, log, ht, -, -, hless, rfl⟩ |
    ⟨i, t, failure, ht, hruns, rfl⟩
  · have hlt := sum_set_lt (fun t : ControllerTask => t.state.movesLeft)
      (b := { t with state := state }) ht hless
    exact ⟨Nat.add_lt_add_right hlt _, rfl, rfl, rfl⟩
  · have hless : ServerTask.movesLeft { t with state := .ended failure } < t.movesLeft := by
      rw [ServerTask.movesLeft, ServerTask.movesLeft, hruns]
      exact Nat.zero_lt_one
    have hlt := sum_set_lt ServerTask.movesLeft ht hless
    exact ⟨Nat.add_lt_add_left hlt _, rfl, rfl, rfl⟩

/-- Taking note of the end of a controller uses a move up. -/
theorem movesLeft_noteEnd {t : ControllerTask} {ending : Ending} (ht : t ∈ r.controllers)
    (hstate : t.state = .ended ending false) (entry : Entry) :
    (Run.note { r with controllers := noteEnd t.name r.controllers } entry).movesLeft <
      r.movesLeft := by
  refine Nat.add_lt_add_right ?_ _
  show ((noteEnd t.name r.controllers).map (·.state.movesLeft)).sum < _
  rw [noteEnd, List.map_map]
  refine List.sum_lt_sum (l := r.controllers) _ (·.state.movesLeft) (fun t' _ => ?_) ⟨t, ht, ?_⟩
  · dsimp only [Function.comp]
    split
    · rename_i ending' noted hended
      split_ifs
      · simp [ControllerState.movesLeft]
      · exact Nat.le_refl _
    · exact Nat.le_refl _
  · simp [Function.comp, hstate, ControllerState.movesLeft]

theorem move?_eq_none_iff : r.move? = none ↔
    moveController r.time r.stopped.isSome r.controllers = none ∧
      moveServer r.time r.stopped r.servers = none := by
  unfold move?
  split
  · rename_i controllers name happening hmove
    split <;> simp [hmove]
  · rename_i hmove
    simp [hmove]

/-- A controller whose rest is over moves, or another one before it. -/
theorem moveController_ne_none {tasks : List ControllerTask} {time : Nat} {stopped : Bool}
    {t : ControllerTask} {next : Nat} (ht : t ∈ tasks) (hnext : t.nextTime = some next)
    (hle : next ≤ time) : moveController time stopped tasks ≠ none := by
  induction tasks with
  | nil => cases ht
  | cons t' rest ih =>
    unfold moveController
    split
    · exact nofun
    · rename_i hstill
      rcases List.mem_cons.1 ht with rfl | hrest
      · unfold ControllerTask.nextTime at hnext
        split at hnext
        · rename_i wake steps hstate
          cases hnext
          simp [ControllerTask.advance, hstate, hle] at hstill
        · cases hnext
      · simpa using ih hrest

/-- A server whose time has come ends, or another one before it. -/
theorem moveServer_ne_none {tasks : List ServerTask} {time : Nat} {stopped : Option Nat}
    {t : ServerTask} {next : Nat} (ht : t ∈ tasks) (hnext : t.nextTime stopped = some next)
    (hle : next ≤ time) : moveServer time stopped tasks ≠ none := by
  have hmoves : t.advance time stopped ≠ none := by
    unfold ServerTask.nextTime at hnext
    unfold ServerTask.advance
    split at hnext
    · have hmem := (List.min?_eq_some_iff.1 hnext).1
      split
      · exact nofun
      · rename_i hexit
        rcases List.mem_append.1 hmem with hmem | hmem
        · obtain ⟨⟨at_, failure⟩, hsome, rfl⟩ : ∃ e, t.exit = some e ∧ e.1 = next := by
            simpa using hmem
          rw [hsome] at hexit
          simp [Option.filter, hle] at hexit
        · obtain ⟨since, rfl, rfl⟩ : ∃ since,
              stopped = some since ∧ since + t.lingering = next := by
            simpa using hmem
          simp [hle]
    · cases hnext
    · cases hnext
  induction tasks with
  | nil => cases ht
  | cons t' rest ih =>
    unfold moveServer
    split
    · exact nofun
    · rename_i hstill
      rcases List.mem_cons.1 ht with rfl | hrest
      · exact absurd hstill hmoves
      · simpa using ih hrest

/-! ### Progress -/

/-- The end of a run is due: it is decided, or an event that ends it is there. -/
def Due (r : Run) : Prop :=
  r.phase.outcome? ≠ none ∨ r.phase.isOpen = true ∧ ∃ o, r.Ends o

theorem releaseRank_le (activity : Activity) : releaseRank activity ≤ 4 := by
  unfold releaseRank
  split <;> decide

theorem releaseRank_pos (activity : Activity) : 0 < releaseRank activity := by
  unfold releaseRank
  split <;> decide

theorem phaseRank_finish (r : Run) (outcome : Option Error) (led : Bool) :
    phaseRank (r.finish outcome led).phase ≤ 4 :=
  phase_finish (motive := (phaseRank · ≤ 4)) r outcome led releaseRank_le (Nat.zero_le 4)

/-- Only the reading is followed by another request of the release. -/
theorem eq_reading_of_receive {e : Elector} {now : Lease.Instant} {release release' : Release}
    {answer : LeaseAnswer} (h : release.receive e now answer = .inl release') :
    release = .reading ∧ ∃ call, release' = .clearing call := by
  unfold Release.receive at h
  split at h
  · split at h
    · cases h
    · cases h
    · split_ifs at h
      cases h
      exact ⟨rfl, _, rfl⟩
  · split at h <;> cases h

/-- The end of a run that awaits the lease is due by an event that the manager decides upon. -/
theorem Due.not_elect (h : r.Due) {activity : Activity} (hphase : r.phase = .electing activity)
    (hsignal : r.signal.resolved = false) (hexit : r.serverExit? = none)
    {election : LeaderElection} {phase : AcquirePhase} (hseeking : r.Seeking election phase) :
    False := by
  rcases h with houtcome | ⟨-, o, hends⟩
  · rw [hphase] at houtcome
    exact houtcome rfl
  · rcases hends.of_awaiting hseeking with ⟨-, hresolved⟩ | ⟨t, ht, error, herror, -⟩
    · rw [hsignal] at hresolved
      cases hresolved
    · rw [List.findSome?_eq_none_iff.1 hexit t ht] at herror
      cases herror

/-- A decision brings the end closer, whoever goes on after it. -/
theorem Decides.effort_lt (h : r.Decides r') (hcourse : (start m s).Course r)
    (hsteady : r.Steady m) (hdue : r.Due) (turn : Turn) :
    ({ r' with turn := turn } : Run).effort < r.effort := by
  have hlater : ∀ {p : Phase}, r.phase = p → phaseRank r'.phase < phaseRank p →
      ({ r' with turn := turn } : Run).effort < r.effort :=
    fun hphase hlt => effort_lt_of_phaseRank (hphase ▸ hlt)
  cases h with
  | abandon hphase | failEarly hphase => exact hlater hphase (show 5 < 7 by decide)
  | stop hphase | lose hphase | fail hphase => exact hlater hphase (show 6 < 7 by decide)
  | drained hphase | abort hphase => exact hlater hphase (show 5 < 6 by decide)
  | elect hphase hsignal hexit =>
    obtain ⟨election, phase, -, hseeking⟩ := hcourse.seeking hphase
    exact (hdue.not_elect hphase hsignal hexit hseeking).elim
  | @note t ending hphase hunnoted =>
    obtain ⟨ht, hstate⟩ := unnoted?_cases hunnoted
    rcases r.noteEnding_cases t ending with ⟨error, -, heq⟩ | ⟨-, heq⟩
    · rw [heq] at hlater ⊢
      exact hlater hphase (show 6 < 7 by decide)
    · rw [heq]
      exact effort_lt_of_phase rfl
        (.inr ⟨rfl, .inr ⟨rfl, .inl (movesLeft_noteEnd ht hstate (.controllerFinished t.name))⟩⟩)
  | finish hphase => exact hlater hphase (Nat.lt_succ_of_le (phaseRank_finish _ _ _))
  | abortServers hphase => exact hlater hphase (Nat.lt_succ_of_le (phaseRank_finish _ _ _))
  | handBack hphase hback =>
    obtain ⟨c, release, due, world, progress, -, rfl, hreturns, ⟨next, rfl, rfl⟩ | ⟨-, log, rfl⟩⟩ :=
      hsteady.handBack hphase hback
    · refine hlater hphase ?_
      cases hreturns with
      | send =>
        cases release with
        | reading => exact show 3 < 4 by decide
        | clearing call => exact show 1 < 2 by decide
      | goOn hhears hnext =>
        obtain ⟨rfl, call, rfl⟩ := eq_reading_of_receive hnext
        cases due with
        | none => exact show 2 < 4 by decide
        | some due => exact show 2 < 3 by decide
    · exact hlater hphase (releaseRank_pos _)

/-- An activity that has nothing to do now goes on later. -/
theorem lt_nextTime_of_settle {c : Candidate} {release : Release} {due : Option Nat}
    (hc : w.candidate? 0 = some c) (h : settle w (.releasing 0 release due) = none) :
    ∃ d, due = some d ∧ w.time < d := by
  unfold settle at h
  cases due with
  | none => simp [Activity.nextTime, World.sendActivity, hc] at h
  | some d =>
    refine ⟨d, rfl, Nat.lt_of_not_le fun hle => ?_⟩
    simp [Activity.nextTime, hle] at h

/-- Where a decided run has nothing to decide, its phase goes on later by itself. -/
theorem Steady.lt_phaseTime (h : r.Steady m) (houtcome : r.phase.outcome? ≠ none)
    (hover : r.isOver = false) (hdecide : r.decide? = none) :
    ∃ d, phaseTime r.phase = some d ∧ r.time < d := by
  unfold decide? at hdecide
  cases hphase : r.phase with
  | electing | leading | crashed =>
    rw [hphase] at houtcome
    exact absurd rfl houtcome
  | drainingControllers outcome deadline | drainingServers outcome led deadline =>
    simp only [hphase] at hdecide
    split_ifs at hdecide with _ hlate
    exact ⟨deadline, rfl, Nat.lt_of_not_le hlate⟩
  | releasing activity =>
    obtain ⟨c, hc⟩ := h.candidate hphase
    obtain ⟨-, release, due, rfl⟩ := h.releasing activity hphase
    simp only [hphase, Run.handBack, Option.map_eq_none_iff] at hdecide
    obtain ⟨d, rfl, hlt⟩ := lt_nextTime_of_settle hc hdecide
    exact ⟨d, rfl, h.time ▸ hlt⟩
  | «over» result =>
    rw [isOver, hphase] at hover
    cases hover

/-- The renewals go on later. -/
theorem Fit.lt_nextRenewalTime (h : Fit m w) {next : Nat} (hnext : w.nextRenewalTime = some next) :
    w.time < next := by
  unfold World.nextRenewalTime at hnext
  have hmem := (List.min?_eq_some_iff.1 hnext).1
  obtain ⟨c, hc, hguard⟩ := List.mem_filterMap.1 hmem
  obtain ⟨g, hg, htime⟩ := Option.bind_eq_some_iff.1 hguard
  rcases h with ⟨-, hempty⟩ | ⟨election, -, d, hd, -, hwaits⟩
  · rw [hempty] at hc
    cases hc
  · rw [hd, List.mem_singleton] at hc
    subst hc
    exact (hwaits g hg).lt_nextTime htime

/-- The clock goes on only where this brings the end closer: time passes, or something has happened
from outside, or a task was kept from its move. -/
theorem Steady.arrive_effort_lt (h : r.Steady m) (houtcome : r.phase.outcome? ≠ none)
    (hover : r.isOver = false) (hturn : r.turn = .closing) (hdecide : r.decide? = none) {next : Nat}
    (hnext : r.nextTime = some next) : (r.arrive (max next r.time)).effort < r.effort := by
  obtain ⟨d, hd, hlt⟩ := h.lt_phaseTime houtcome hover hdecide
  obtain ⟨hmem, hleast⟩ := List.min?_eq_some_iff.1 hnext
  have hnextle : next ≤ d := hleast d (by simp [hd])
  obtain ⟨signal, server, log, heq⟩ := r.arrive_cases (max next r.time)
  rw [heq]
  refine effort_lt_of_phase rfl ?_
  simp only [slack, hd, Option.elim_some]
  rcases Nat.lt_or_ge r.time next with hlater | hnow
  · left
    omega
  · right
    rw [Nat.max_eq_right hnow]
    refine ⟨rfl, ?_⟩
    by_cases hdue : ∃ entry ∈ r.agenda, entry.1 ≤ r.time
    · left
      obtain ⟨entry, hentry, hle⟩ := hdue
      exact List.length_filter_lt_length_iff_exists.2 ⟨entry, hentry, by simpa using hle⟩
    · right
      have hagenda : r.agenda.filter (r.time < ·.1) = r.agenda :=
        List.filter_eq_self.2 fun entry hentry => by
          simpa using Nat.lt_of_not_le fun hle => hdue ⟨entry, hentry, hle⟩
      refine ⟨congrArg List.length hagenda, .inr ⟨rfl, ?_⟩⟩
      have hmoves : r.move? ≠ none := by
        rw [ne_eq, move?_eq_none_iff]
        rintro ⟨hcontrollers, hservers⟩
        simp only [List.mem_append, List.mem_map, List.mem_filterMap, Option.mem_toList] at hmem
        rcases hmem with (((⟨entry, hentry, rfl⟩ | ⟨t, ht, htime⟩) | ⟨t, ht, htime⟩) | hphase) |
          hrenewal
        · exact hdue ⟨entry, hentry, hnow⟩
        · exact moveController_ne_none ht htime hnow hcontrollers
        · exact moveServer_ne_none ht htime hnow hservers
        · rw [hd] at hphase
          cases hphase
          omega
        · have := h.fit.lt_nextRenewalTime hrenewal
          rw [h.time] at this
          omega
      rw [turnRank, turnRank, hturn]
      dsimp only
      rw [if_pos (Option.isSome_iff_ne_none.2 hmoves)]
      decide

/-- **Every tick brings the end closer** once it is due. -/
theorem Advances.effort_lt (h : r.Advances r') (hcourse : (start m s).Course r)
    (hsteady : r.Steady m) (hdue : r.Due) (hover : r.isOver = false) : r'.effort < r.effort := by
  cases h with
  | decide hturn hdecide => exact (decides_of_decide? hdecide).effort_lt hcourse hsteady hdue _
  | yield hturn hdecide =>
    refine effort_lt_of_phase rfl (.inr ⟨rfl, .inr ⟨rfl, .inr ⟨rfl, ?_⟩⟩⟩)
    have hrank : r.turnRank = 2 := by rw [turnRank, hturn]
    rw [hrank]
    exact show 1 < 2 by decide
  | move hturn hmove =>
    obtain ⟨hless, hphase, htime, hagenda⟩ := movesLeft_move hmove
    refine effort_lt_of_phase hphase (.inr ⟨?_, .inr ⟨by rw [hagenda], .inl hless⟩⟩)
    rw [slack, slack, hphase, htime]
  | rest hturn hmove =>
    refine effort_lt_of_phase rfl (.inr ⟨rfl, .inr ⟨rfl, .inr ⟨rfl, ?_⟩⟩⟩)
    have hstill : ({ r with turn := .closing } : Run).move? = none :=
      (move?_eq_none_iff (r := { r with turn := .closing })).2
        ((move?_eq_none_iff (r := r)).1 hmove)
    have hrank : r.turnRank = 1 := by rw [turnRank, hturn]
    have hrank' : ({ r with turn := .closing } : Run).turnRank = 0 := by
      rw [turnRank, hstill]
      rfl
    rw [hrank, hrank']
    exact Nat.zero_lt_one
  | wait hturn hdecide hnext =>
    rcases hdue with houtcome | ⟨hopen, o, hends⟩
    · exact hsteady.arrive_effort_lt houtcome hover hturn hdecide hnext
    · exact absurd hdecide (hends.decide?_ne_none hopen (hcourse.attends hopen)
        fun activity hphase => (hcourse.seeking hphase).imp fun _ => .imp fun _ => And.right)

/-! ### The end -/

theorem Due.happens (h : r.Due) (hcourse : (start m s).Course r) (hhappens : r.Happens r') :
    r'.Due := by
  rcases h with houtcome | ⟨hopen, o, hends⟩
  · obtain ⟨o, ho⟩ := Option.ne_none_iff_exists'.1 houtcome
    exact .inl fun hnone => nomatch hnone.symm.trans (hhappens.outcome ho).1
  · obtain ⟨-, ⟨hopen', hends'⟩ | houtcome⟩ := hends.happens hopen (hcourse.attends hopen)
      (fun activity hphase => (hcourse.seeking hphase).imp fun _ => .imp fun _ => And.right)
      hhappens
    · exact .inr ⟨hopen', o, hends'⟩
    · exact .inl houtcome

/-- Who may do something by an earlier time may do it by a later one. -/
theorem tick_mono {limit limit' : Nat} (h : r.tick limit = some r') (hle : limit ≤ limit') :
    r.tick limit' = some r' := by
  unfold tick at h ⊢
  split_ifs at h ⊢
  cases hturn : r.turn with
  | opening | tasks =>
    simp only [hturn] at h ⊢
    exact h
  | closing =>
    simp only [hturn] at h ⊢
    cases hdecide : r.decide? with
    | some decided =>
      simp only [hdecide] at h ⊢
      exact h
    | none =>
      simp only [hdecide] at h ⊢
      cases hnext : r.nextTime with
      | none => simp [hnext] at h
      | some time =>
        simp only [hnext] at h ⊢
        split_ifs at h with hearly
        rw [if_pos (Nat.le_trans hearly hle)]
        exact h

/-- A run whose end is due has something left to do until it is over. -/
theorem Steady.exists_tick (h : r.Steady m) (hcourse : (start m s).Course r) (hdue : r.Due)
    (hover : r.isOver = false) : ∃ limit r', r.tick limit = some r' := by
  cases hturn : r.turn with
  | opening =>
    refine ⟨0, ?_⟩
    cases hdecide : r.decide? with
    | none => exact ⟨{ r with turn := .tasks }, by simp [tick, hover, hturn, hdecide]⟩
    | some decided => exact ⟨decided, by simp [tick, hover, hturn, hdecide]⟩
  | tasks =>
    refine ⟨0, ?_⟩
    cases hmove : r.move? with
    | none => exact ⟨{ r with turn := .closing }, by simp [tick, hover, hturn, hmove]⟩
    | some moved => exact ⟨moved, by simp [tick, hover, hturn, hmove]⟩
  | closing =>
    cases hdecide : r.decide? with
    | some decided =>
      exact ⟨0, { decided with turn := .opening }, by simp [tick, hover, hturn, hdecide]⟩
    | none =>
      have houtcome : r.phase.outcome? ≠ none := by
        rcases hdue with houtcome | ⟨hopen, o, hends⟩
        · exact houtcome
        · exact absurd hdecide (hends.decide?_ne_none hopen (hcourse.attends hopen)
            fun activity hphase =>
              (hcourse.seeking hphase).imp fun _ => .imp fun _ => And.right)
      obtain ⟨d, hd, -⟩ := h.lt_phaseTime houtcome hover hdecide
      have hnext : r.nextTime ≠ none := by
        rw [nextTime, ne_eq, List.min?_eq_none_iff]
        simp [hd]
      obtain ⟨next, hnext⟩ := Option.ne_none_iff_exists'.1 hnext
      exact ⟨max next r.time, r.arrive (max next r.time),
        by simp [tick, hover, hturn, hdecide, hnext]⟩

/-- **A run comes to its end by itself** once the end is due. -/
theorem exists_ticks_over (hcourse : (start m s).Course r) (hrests : m.Rests) (hdue : r.Due) :
    ∃ limit steps o, ∀ limit' ≥ limit, (r.ticks limit' steps).phase = .over o := by
  -- By induction on what is left to do, which every tick makes less.
  induction heffort : r.effort using WellFoundedLT.induction generalizing r with
  | ind e ih =>
    subst heffort
    by_cases hover : r.isOver = true
    · obtain ⟨o, hphase⟩ : ∃ o, r.phase = .over o := by
        cases hphase : r.phase with
        | «over» o => exact ⟨o, rfl⟩
        | crashed =>
          rcases hdue with houtcome | ⟨hopen, -⟩
          · rw [hphase] at houtcome
            exact absurd rfl houtcome
          · rw [hphase] at hopen
            cases hopen
        | _ =>
          rw [isOver, hphase] at hover
          cases hover
      exact ⟨0, 0, o, fun _ _ => hphase⟩
    · have hsteady := hcourse.steady hrests
      have hover := eq_false_of_ne_true hover
      obtain ⟨limit, r', htick⟩ := hsteady.exists_tick hcourse hdue hover
      have hhappens : r.Happens r' := .tick limit htick
      obtain ⟨limit₁, steps, o, hticks⟩ := ih r'.effort
        ((advances_of_tick htick).effort_lt hcourse hsteady hdue hover)
        (hcourse.tail hhappens) (hdue.happens hcourse hhappens) rfl
      refine ⟨max limit limit₁, steps + 1, o, fun limit' hle => ?_⟩
      rw [ticks, tick_mono htick (le_trans (le_max_left _ _) hle)]
      exact hticks limit' (le_trans (le_max_right _ _) hle)

end Run

end ControllerManager.Manager
