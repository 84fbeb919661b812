import ControllerManager.Proofs.Manager.Course

/-!
# Controllers after the loss of the leadership

A leader whose renewal is answered too late loses the leadership. A controller that ignores the
request to stop runs on without a leader, for as long as the manager waits for it. So controllers
run only for a leader exactly where the manager does not wait at all.

## Main definitions

* `Manager.soleManager` — a manager with one controller.
* `Manager.lateAnswer` — surroundings in which the first renewal is answered late.
* `Manager.firstRenewal`, `Manager.firstDeadline` — when it asks, and when its time is over.

## Main results

* `Manager.Run.exists_unled` — a controller without a leader.
* `Manager.Run.controllers_led_iff` — when controllers run only for a leader.
* `Manager.Run.unled_controller_reports` — a controller that goes on after the loss.
-/

namespace ControllerManager.Manager

open Cluster Election Simulation

/-! ### A leader whose renewal is answered too late -/

/-- The elector of the runs below. -/
def soleElector : Elector := ⟨"sole", Elector.standardLease, "release-system", .standard⟩

/-- A manager with an election and one controller. -/
def soleManager (grace : Nat) (steps : Controller) : Manager where
  kind := .standard
  host := "https://base.example/"
  workload := .ofUrl (.absolute "https".toList "base.example".toList ⟨['/'], none⟩)
  scheme := .empty
  metricsAddress := none
  healthProbeAddress := none
  webhookAddress := .v4 .unspecified 9443
  webhookCertDir := ""
  grace := grace
  recordsMetrics := false
  election := some ⟨soleElector, "https://base.example/"⟩
  controllers := ⟨[("sole", steps)], by simp⟩
  webhooks := .empty
  healthz := .empty
  readyz := .empty
  defaults := .standard

/-- Surroundings in which the lease is free, and the first renewal is answered after `delay`
nanoseconds. -/
def lateAnswer (delay : Nat) : Surroundings where
  site := .isolated [] fun _ => .missing
  server := ⟨.empty, [⟨0, none⟩, ⟨0, none⟩, ⟨delay, none⟩], false, false⟩
  connected := true
  clock := Lease.Instant.after 0
  signal := .initial
  agenda := []

/-- When the first renewal asks for the lease: after two seconds. -/
def firstRenewal : Nat := 2 * Timing.perSecond

/-- When the time for the first renewal is over: ten seconds after the lease was acquired. -/
def firstDeadline : Nat := 10 * Timing.perSecond

/-- The first renewal while it waits for an answer. -/
def firstAttempt : Attempt := .reading (Lease.Instant.after 0 firstRenewal)

/-- The world of a leader whose next request is answered after `delay` nanoseconds. -/
def soleWorld (delay time : Nat) (leads : Bool) (renewal : Renewal) (due : Option Nat)
    (store : LeaseStore) (sent : List Sent) : World where
  time := time
  clock := Lease.Instant.after 0
  server := ⟨store, [⟨delay, none⟩], false, false⟩
  connected := true
  candidates := [⟨soleElector, leads, some ⟨renewal, due, false⟩⟩]
  sent := sent
  leadership := some leads

/-- The run of a leading manager with one controller that waits forever. -/
def soleRun (grace : Nat) (turn : Turn) (state : ControllerState) (world : World)
    (log : List (Nat × Entry)) : Run where
  time := world.time
  turn := turn
  phase := .leading
  signal := .initial
  stopped := none
  grace := grace
  staff := [("sole", [.hang])]
  context := (soleManager grace [.hang]).context
  controllers := [⟨"sole", state⟩]
  servers := []
  world := world
  agenda := []
  log := log

section Renewals

variable {delay : Nat} {store : LeaseStore} {sent : List Sent}

theorem target_soleElector : ∃ target, soleElector.target .read = .ok target := by
  have hok : (soleElector.target .read).toOption.isSome = true := by decide +kernel
  rcases h : soleElector.target .read with fault | target
  · rw [h] at hok
    cases hok
  · exact ⟨target, rfl⟩

theorem renewAll_soleWorld (time : Nat) (leads : Bool) (renewal : Renewal) (due : Option Nat) :
    (soleWorld delay time leads renewal due store sent).renewAll =
      ((soleWorld delay time leads renewal due store sent).wake 0).sendRounds 2 := by
  have hlength : (soleWorld delay time leads renewal due store sent).candidates.length = 1 := rfl
  rw [World.renewAll, hlength, List.range_one, List.foldl_cons, List.foldl_nil]

/-- The first renewal asks for the lease, and waits for the answer until its deadline. -/
theorem renewAll_asks (hdelay : 0 < delay) : ∃ sent',
    (soleWorld delay firstRenewal true (.resting 0 firstRenewal) none store sent).renewAll =
      soleWorld delay firstRenewal true (.attempting 0 firstDeadline firstAttempt)
        (some (firstRenewal + delay)) store sent' := by
  have hbegin : Renewal.begin soleElector.timing 0 firstRenewal
      (Lease.Instant.after 0 firstRenewal) = .attempting 0 firstDeadline firstAttempt := by
    decide
  have hwake :
      (soleWorld delay firstRenewal true (.resting 0 firstRenewal) none store sent).wake 0 =
      soleWorld delay firstRenewal true (.attempting 0 firstDeadline firstAttempt) none store
        sent := by
    simp [World.wake, World.candidate?, soleWorld, World.now, hbegin, World.setRenewal,
      World.setCandidate]
  have hready : (soleWorld delay firstRenewal true (.attempting 0 firstDeadline firstAttempt) none
      store sent).ready = [0] := rfl
  obtain ⟨target, htarget⟩ := target_soleElector
  have hsend : (soleWorld delay firstRenewal true (.attempting 0 firstDeadline firstAttempt) none
      store sent).sendRenewal 0 =
        soleWorld delay firstRenewal true (.attempting 0 firstDeadline firstAttempt)
          (some (firstRenewal + delay)) store (⟨firstRenewal, target, .read⟩ :: sent) := by
    have hne : delay ≠ 0 := Nat.ne_of_gt hdelay
    simp [World.sendRenewal, World.candidate?, soleWorld, World.send, firstAttempt, Attempt.call,
      htarget, Server.nextDelay, World.setRenewal, World.setCandidate, hne]
  refine ⟨⟨firstRenewal, target, .read⟩ :: sent, ?_⟩
  rw [renewAll_soleWorld, hwake, World.sendRounds, hready]
  simp only [List.foldl_cons, List.foldl_nil]
  rw [hsend]
  rfl

/-- Without an answer until the deadline the leadership is lost. -/
theorem renewAll_loses (hdelay : firstDeadline < firstRenewal + delay) (a : Attempt) :
    (soleWorld delay firstDeadline true (.attempting 0 firstDeadline a)
        (some (firstRenewal + delay)) store sent).renewAll =
      soleWorld delay firstDeadline false (.lost firstDeadline) none store sent := by
  have hgiveUp : Renewal.giveUp soleElector.timing firstDeadline (.attempting 0 firstDeadline a) =
      .lost firstDeadline := by
    simp [Renewal.giveUp, Renewal.afterFailure, soleElector, Timing.standard, Timing.make,
      firstDeadline]
  have hwake : (soleWorld delay firstDeadline true (.attempting 0 firstDeadline a)
      (some (firstRenewal + delay)) store sent).wake 0 =
        soleWorld delay firstDeadline false (.lost firstDeadline) none store sent := by
    have hlate : ¬ firstRenewal + delay ≤ firstDeadline := Nat.not_le_of_lt hdelay
    simp [World.wake, World.candidate?, soleWorld, hgiveUp, World.setRenewal, World.setCandidate,
      hlate]
  rw [renewAll_soleWorld, hwake]
  rfl

end Renewals

namespace Run

variable {r b : Run} {grace delay time : Nat}

/-- The clock goes on when nobody has anything left to do. -/
theorem Course.arrive (h : b.Course r) (hturn : r.turn = .closing) (hover : r.isOver = false)
    (hdecide : r.decide? = none) (hnext : r.nextTime = some time) (hle : r.time ≤ time) :
    b.Course (r.arrive time) := by
  refine Relation.ReflTransGen.tail h (.tick time ?_)
  simp [Run.tick, hover, hturn, hdecide, hnext, Nat.max_eq_left hle]

/-- A manager whose controllers still have time to stop waits for them. -/
theorem yields_of_draining {outcome : Option Error} {deadline : Nat}
    (hphase : r.phase = .drainingControllers outcome deadline) (hworks : r.works = true)
    (hearly : r.time < deadline) : r.Yields := by
  right
  unfold decide?
  simp only [hphase]
  rw [if_neg (not_idle_of_works hworks), if_neg (Nat.not_le_of_lt hearly)]

/-! ### The loss of the leadership, step by step -/

section Lapse

variable {store : LeaseStore} {sent : List Sent} {log : List (Nat × Entry)}

/-- The leader has acquired the lease at once, and its controller waits. -/
theorem course_leading (grace delay : Nat) : ∃ store sent log,
    (start (soleManager grace [.hang]) (lateAnswer delay)).Course
      (soleRun grace .closing (.active [.hang])
        (soleWorld delay 0 true (.start soleElector.timing 0) none store sent) log) :=
  ⟨_, _, _, course_ticks _ 0 5⟩

/-- With a renewal under way the leader has nothing to do but wait. -/
theorem Course.wait {renewal : Renewal} {due : Option Nat} (hlive : renewal.isOver = false)
    (h : b.Course (soleRun grace .opening (.active [.hang])
      (soleWorld delay time true renewal due store sent) log)) :
    b.Course (soleRun grace .closing (.active [.hang])
      (soleWorld delay time true renewal due store sent) log) := by
  have hdecide : (soleRun grace .opening (.active [.hang])
      (soleWorld delay time true renewal due store sent) log).decide? = none := by
    simp [decide?, soleRun, ShutdownSignal.resolved, ShutdownSignal.initial, leadershipLost,
      soleWorld, World.candidate?, hlive, serverExit?, unnoted?]
  have htick : (soleRun grace .opening (.active [.hang])
      (soleWorld delay time true renewal due store sent) log).tick 0 =
        some (soleRun grace .tasks (.active [.hang])
          (soleWorld delay time true renewal due store sent) log) := by
    unfold Run.tick
    rw [hdecide]
    rfl
  exact Relation.ReflTransGen.tail (.tail h (.tick 0 htick)) (.tick 0 rfl)

theorem arrive_soleRun {leads : Bool} {renewal : Renewal} {due : Option Nat} (time' : Nat) :
    (soleRun grace .closing (.active [.hang])
      (soleWorld delay time leads renewal due store sent) log).arrive time' =
      { soleRun grace .opening (.active [.hang])
          (soleWorld delay time' leads renewal due store sent) log with
        world := (soleWorld delay time' leads renewal due store sent).renewAll } :=
  rfl

/-- The answer to the renewal comes late. -/
theorem course_unanswered (grace : Nat) (hdelay : 0 < delay) : ∃ store sent log,
    (start (soleManager grace [.hang]) (lateAnswer delay)).Course
      (soleRun grace .closing (.active [.hang])
        (soleWorld delay firstRenewal true (.attempting 0 firstDeadline firstAttempt)
          (some (firstRenewal + delay)) store sent) log) := by
  obtain ⟨store, sent, log, h⟩ := course_leading grace delay
  have hstart : Renewal.start soleElector.timing 0 = .resting 0 firstRenewal := by decide
  rw [hstart] at h
  have hnext : (soleRun grace .closing (.active [.hang])
      (soleWorld delay 0 true (.resting 0 firstRenewal) none store sent) log).nextTime =
        some firstRenewal := rfl
  have harrive := Course.arrive h rfl rfl rfl hnext (Nat.zero_le _)
  obtain ⟨sent', hasks⟩ := renewAll_asks hdelay
  rw [arrive_soleRun, hasks] at harrive
  exact ⟨store, sent', log, Course.wait rfl harrive⟩

end Lapse

/-- **A controller without a leader**, where the manager waits for it at all. -/
theorem exists_unled (hgrace : 0 < grace) (hdelay : firstDeadline < firstRenewal + delay) :
    ∃ r, (start (soleManager grace [.hang]) (lateAnswer delay)).Course r ∧ r.Yields ∧
      r.works = true ∧ r.isLed = false := by
  have hpos : 0 < delay := by
    have hle : firstRenewal ≤ firstDeadline := by decide
    omega
  obtain ⟨store, sent, log, h⟩ := course_unanswered grace hpos
  -- The deadline, counted from the acquisition, comes before the answer.
  have hnext : (soleRun grace .closing (.active [.hang])
      (soleWorld delay firstRenewal true (.attempting 0 firstDeadline firstAttempt)
        (some (firstRenewal + delay)) store sent) log).nextTime = some firstDeadline := by
    have hcontrollers : [ControllerTask.mk "sole" (.active [.hang])].filterMap
        ControllerTask.nextTime = [] := rfl
    have hmin : min firstDeadline (firstRenewal + delay) = firstDeadline :=
      Nat.min_eq_left (Nat.le_of_lt hdelay)
    simp [nextTime, soleRun, soleWorld, hcontrollers, phaseTime, World.nextRenewalTime,
      World.Guard.nextTime, hmin]
  have hlost : (start (soleManager grace [.hang]) (lateAnswer delay)).Course
      (soleRun grace .opening (.active [.hang])
        (soleWorld delay firstDeadline false (.lost firstDeadline) none store sent) log) := by
    have harrive := Course.arrive h rfl rfl rfl hnext (by decide : firstRenewal ≤ firstDeadline)
    rwa [arrive_soleRun, renewAll_loses hdelay] at harrive
  have hearly : firstDeadline < firstDeadline + grace := by omega
  exact ⟨_, .tail hlost (.tick 0 rfl), yields_of_draining rfl rfl hearly, rfl, rfl⟩

/-- **When controllers run only for a leader**: exactly where the manager does not wait for them. In
general a controller without a leader was asked to stop, and the time for it is not over. -/
theorem controllers_led_iff (grace : Nat) :
    (∀ (m : Manager) (s : Surroundings) (r : Run), m.grace = grace → m.election.isSome →
      (start m s).Course r → r.Yields → r.works = true →
      r.isLed = true ∨
        ∃ stopped, r.stopped = some stopped ∧ stopped ≤ r.time ∧ r.time < stopped + grace) ∧
    ((∀ (m : Manager) (s : Surroundings) (r : Run), m.grace = grace → m.election.isSome →
      (start m s).Course r → r.Yields → r.works = true → r.isLed = true) ↔ grace = 0) := by
  refine ⟨?_, ?_, ?_⟩
  · rintro m s r rfl helection h hyields hworks
    exact (Course.governed h helection).led_or_draining hyields hworks
  · refine fun hled => Nat.eq_zero_of_not_pos fun hgrace => ?_
    obtain ⟨r, h, hyields, hworks, hunled⟩ :=
      @exists_unled grace firstDeadline hgrace (by decide)
    rw [hled _ _ r rfl rfl h hyields hworks] at hunled
    cases hunled
  · rintro hgrace m s r rfl helection h hyields hworks
    rcases (Course.governed h helection).led_or_draining hyields hworks with
      hled | ⟨stopped, -, hle, hlt⟩
    · exact hled
    · omega

/-- A manager that does not wait leads the controller that it has called. -/
theorem controllers_led_without_grace : ∃ r,
    (start (soleManager 0 [.hang]) (lateAnswer (100 * Timing.perSecond))).Course r ∧
      r.works = true ∧ r.isLed = true := by
  obtain ⟨store, sent, log, h⟩ := course_leading 0 (100 * Timing.perSecond)
  exact ⟨_, h, rfl, (controllers_led_iff 0).2.2 rfl _ _ _ rfl rfl h (.inr rfl) rfl⟩

/-- **A controller that goes on after the loss**: the leadership is lost after ten seconds, and two
seconds later the controller still works. -/
theorem unled_controller_reports : ∃ r,
    (start
      (soleManager (30 * Timing.perSecond) [.sleep (12 * Timing.perSecond), .report, .hang])
      (lateAnswer (100 * Timing.perSecond))).Course r ∧
      r.Yields ∧ r.works = true ∧ r.isLed = false ∧ r.time = 12 * Timing.perSecond ∧
      r.stopped = some firstDeadline ∧
      r.log.head? = some (12 * Timing.perSecond, .told "sole" (.reported true)) := by
  refine ⟨_, course_ticks _ (20 * Timing.perSecond) 19, .inr (Option.isNone_iff_eq_none.1 ?_), ?_⟩
  · decide +kernel
  · decide +kernel

end Run

end ControllerManager.Manager
