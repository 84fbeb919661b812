import ControllerManager.Manager.Run
import ControllerManager.Proofs.Simulation.Tenure

/-!
# Controllers and the leadership

A manager with an election calls its controllers once its elector is leader. Whatever ends the run,
the controllers are asked to stop, and those that do not are aborted when the time for it is over.
Until then they go on, although the leadership may be lost already. So controllers without a leader
are found in that time only.

## Main definitions

* `Manager.Run.Yields` — the manager has nothing to decide.
* `Manager.Run.Orderly` — what holds of every run, phase by phase.
* `Manager.Run.Governed` — the same at every turn.

## Main results

* `Manager.Run.governed_start`, `Manager.Run.Governed.tick` — a run is governed from its first
  instant on.
* `Manager.Run.Governed.led_or_draining` — controllers run for a leader, or are draining.
-/

namespace ControllerManager.Manager

open Simulation

namespace Run

/-- Whether the elector of the manager is leader. -/
def isLed (r : Run) : Bool := (r.world.candidate? 0).any Candidate.isLeader

/-- Whether a controller was called that has neither ended nor been aborted. -/
def works (r : Run) : Bool := r.controllers.any fun t => !t.isOver

/-- The manager has nothing to decide, so that the tasks move or the clock goes on. -/
def Yields (r : Run) : Prop := r.turn = .tasks ∨ r.decide? = none

variable {m : Manager} {s : Surroundings} {r r' : Run} {limit : Nat}

theorem not_idle_of_works (h : r.works = true) :
    r.controllers.all ControllerTask.isOver ≠ true := by
  intro hover
  obtain ⟨t, ht, hruns⟩ := List.any_eq_true.1 h
  rw [List.all_eq_true.1 hover t ht] at hruns
  cases hruns

/-! ### The invariant -/

/-- What holds of a run, phase by phase. Until the manager leads no controller has been called.
While it leads, its elector has a guard. Then the controllers have until the end of the time that
began when they were asked to stop, and after that none of them runs. -/
def Orderly (r : Run) : Prop :=
  match r.phase with
  | .electing activity =>
    (∃ phase, activity = .acquiring 0 none phase) ∧ r.controllers = [] ∧ r.stopped = none ∧
      r.world.At 0 fun c => c.guard = none
  | .leading => r.stopped = none ∧ r.world.At 0 Candidate.Seated
  | .drainingControllers _ deadline =>
    ∃ stopped ≤ r.time, r.stopped = some stopped ∧ deadline = stopped + r.grace
  | .drainingServers _ _ _ | .releasing _ | .over _ | .crashed =>
    r.controllers.all ControllerTask.isOver = true

/-- What holds besides when the manager has nothing to decide. -/
def Settled (r : Run) : Prop :=
  match r.phase with
  | .leading => r.leadershipLost = false
  | .drainingControllers _ deadline => r.time < deadline
  | _ => True

theorem settled_of_decide? (h : r.decide? = none) : r.Settled := by
  unfold Settled
  unfold decide? at h
  cases hphase : r.phase with
  | leading =>
    simp only [hphase] at h ⊢
    split_ifs at h with hsignal hlost
    exact eq_false_of_ne_true hlost
  | drainingControllers outcome deadline =>
    simp only [hphase] at h ⊢
    split_ifs at h with hover hdeadline
    exact Nat.lt_of_not_le hdeadline
  | electing | drainingServers | releasing | «over» | crashed => trivial

/-! ### Decisions -/

/-- What a decision keeps of a run. -/
structure Decision (r r' : Run) : Prop where
  orderly : r'.Orderly
  turn : r'.turn = r.turn
  grace : r'.grace = r.grace

/-- What a decision does before it, to the log for instance, does not count. -/
theorem Decision.of_eq {r₁ : Run} (h : r₁.Decision r') (hturn : r₁.turn = r.turn)
    (hgrace : r₁.grace = r.grace) : r.Decision r' :=
  ⟨h.orderly, h.turn.trans hturn, h.grace.trans hgrace⟩

theorem decision_conclude (h : r.stopped = none) (outcome : Option Error) :
    r.Decision (r.conclude outcome) := by
  refine ⟨⟨r.time, Nat.le_refl _, ?_, rfl⟩, rfl, rfl⟩
  show r.stopped.or (some r.time) = some r.time
  rw [h]
  rfl

theorem acquires_settle {w : World} {c : Candidate} {phase : AcquirePhase}
    {result : World × Progress} (hc : w.candidate? 0 = some c)
    (h : settle w (.acquiring 0 none phase) = some result) : w.Acquires 0 c result := by
  unfold settle at h
  split_ifs at h
  · cases h
    exact World.acquires_advance hc phase
  · exact World.acquires_sendActivity hc h

/-- Whoever acquires the leadership without a guard is leader. -/
theorem decision_elect {phase : AcquirePhase} (hcontrollers : r.controllers = [])
    (hstopped : r.stopped = none) (hguard : r.world.At 0 fun c => c.guard = none)
    (h : r.elect (.acquiring 0 none phase) = some r') : r.Decision r' := by
  obtain ⟨⟨world, progress⟩, hsettle, rfl⟩ := Option.map_eq_some_iff.1 h
  obtain ⟨c, hc, hnone⟩ := hguard
  rcases acquires_settle hc hsettle with
    ⟨phase', rfl, hcandidates⟩ | ⟨g, rfl, hcandidates⟩ | ⟨crash, rfl⟩
  · have hguard : world.At 0 fun c => c.guard = none := World.At.congr ⟨c, hc, hnone⟩ hcandidates
    cases phase <;> cases phase' <;>
      exact ⟨⟨⟨_, rfl⟩, hcontrollers, hstopped, hguard⟩, rfl, rfl⟩
  · have hseated : world.At 0 Candidate.Seated := by
      refine World.At.congr ⟨_, World.candidate?_setCandidate_self hc _, ?_⟩ hcandidates
      exact ⟨g, rfl, .inl (by rw [hnone]; rfl)⟩
    exact ⟨⟨hstopped, hseated⟩, rfl, rfl⟩
  · exact ⟨by rw [Orderly]; exact congrArg (List.all · _) hcontrollers, rfl, rfl⟩

theorem decision_noteEnding (h : r.stopped = none) (hseated : r.world.At 0 Candidate.Seated)
    (hphase : r.phase = .leading) (t : ControllerTask) (ending : Ending) :
    r.Decision (r.noteEnding t ending) := by
  unfold noteEnding
  dsimp only
  split
  · exact (decision_conclude (r := { r with controllers := noteEnd t.name r.controllers }) h
      _).of_eq rfl rfl
  · refine ⟨?_, rfl, rfl⟩
    simp only [Orderly, note, hphase]
    exact ⟨h, hseated⟩

theorem decision_finish (h : r.controllers.all ControllerTask.isOver = true)
    (outcome : Option Error) (led : Bool) : r.Decision (r.finish outcome led) := by
  unfold finish
  split
  · exact ⟨h, rfl, rfl⟩
  · split
    · exact ⟨h, rfl, rfl⟩
    · exact ⟨h, rfl, rfl⟩
  · exact ⟨h, rfl, rfl⟩

theorem decision_handBack (h : r.controllers.all ControllerTask.isOver = true)
    {activity : Activity} (hr : r.handBack activity = some r') : r.Decision r' := by
  obtain ⟨⟨world, progress⟩, -, rfl⟩ := Option.map_eq_some_iff.1 hr
  rcases progress with next | outcome
  · exact ⟨h, rfl, rfl⟩
  · rcases outcome with _ | _ | _ | (error | done) | _ | _ <;> exact ⟨h, rfl, rfl⟩

theorem isOver_abort (t : ControllerTask) : t.abort.isOver = true := by
  unfold ControllerTask.abort
  split_ifs with hover
  · exact hover
  · rfl

theorem Orderly.decide (h : r.Orderly) (hr : r.decide? = some r') : r.Decision r' := by
  unfold Orderly at h
  unfold decide? at hr
  cases hphase : r.phase with
  | electing activity =>
    simp only [hphase] at h hr
    obtain ⟨⟨phase, rfl⟩, hcontrollers, hstopped, hguard⟩ := h
    have hover : r.controllers.all ControllerTask.isOver = true := by rw [hcontrollers]; rfl
    split_ifs at hr
    · cases hr
      exact ⟨hover, rfl, rfl⟩
    · split at hr
      · cases hr
        exact ⟨hover, rfl, rfl⟩
      · exact decision_elect hcontrollers hstopped hguard hr
  | leading =>
    simp only [hphase] at h hr
    obtain ⟨hstopped, hseated⟩ := h
    split_ifs at hr
    · cases hr
      exact (decision_conclude (r := r.note _) hstopped none).of_eq rfl rfl
    · cases hr
      exact decision_conclude hstopped _
    · split at hr
      · cases hr
        exact decision_conclude hstopped _
      · obtain ⟨⟨t, ending⟩, -, rfl⟩ := Option.map_eq_some_iff.1 hr
        exact decision_noteEnding hstopped hseated hphase t ending
  | drainingControllers outcome deadline =>
    simp only [hphase] at hr
    split_ifs at hr with hover hdeadline
    · cases hr
      exact ⟨hover, rfl, rfl⟩
    · cases hr
      refine ⟨?_, rfl, rfl⟩
      show (r.controllers.map ControllerTask.abort).all ControllerTask.isOver = true
      simp [isOver_abort]
  | drainingServers outcome led deadline =>
    simp only [hphase] at h hr
    split_ifs at hr
    · cases hr
      exact decision_finish h outcome led
    · cases hr
      exact (decision_finish (r := Run.note { r with servers := _ } _) h outcome led).of_eq rfl rfl
  | releasing activity =>
    simp only [hphase] at h hr
    exact decision_handBack h hr
  | «over» result => simp [hphase] at hr
  | crashed => simp [hphase] at hr

/-! ### Tasks and the clock -/

/-- Where no controller runs, none moves. -/
theorem moveController_eq_none {time : Nat} {stopped : Bool} {tasks : List ControllerTask}
    (h : tasks.all ControllerTask.isOver = true) : moveController time stopped tasks = none := by
  induction tasks with
  | nil => rfl
  | cons t rest ih =>
    obtain ⟨ht, hrest⟩ : t.isOver = true ∧ rest.all ControllerTask.isOver = true := by
      simpa using h
    have hstill : t.advance time stopped = none := by
      unfold ControllerTask.isOver at ht
      unfold ControllerTask.advance
      split at ht
      · simp_all
      · simp_all
      · cases ht
    rw [moveController, hstill, ih hrest]
    rfl

/-- A move changes tasks and the log, and no controller where none runs. -/
theorem move?_cases (h : r.move? = some r') :
    ∃ controllers servers log,
      r' = { r with controllers := controllers, servers := servers, log := log } ∧
      (r.controllers.all ControllerTask.isOver = true → controllers = r.controllers) := by
  unfold move? at h
  split at h
  · rename_i controllers name happening hmove
    have hidle : r.controllers.all ControllerTask.isOver = true → controllers = r.controllers := by
      intro hover
      rw [moveController_eq_none hover] at hmove
      cases hmove
    split at h <;> cases h <;> exact ⟨_, _, _, rfl, hidle⟩
  · obtain ⟨servers, -, rfl⟩ := Option.map_eq_some_iff.1 h
    exact ⟨_, _, _, rfl, fun _ => rfl⟩

theorem Orderly.move (h : r.Orderly) (hr : r.move? = some r') : r'.Orderly := by
  obtain ⟨controllers, servers, log, rfl, hidle⟩ := move?_cases hr
  unfold Orderly at h ⊢
  cases hphase : r.phase with
  | electing activity =>
    simp only [hphase] at h ⊢
    obtain ⟨hactivity, hcontrollers, hrest⟩ := h
    exact ⟨hactivity, (hidle (by rw [hcontrollers]; rfl)).trans hcontrollers, hrest⟩
  | leading | drainingControllers =>
    simp only [hphase] at h ⊢
    exact h
  | drainingServers | releasing | «over» | crashed =>
    simp only [hphase] at h ⊢
    rwa [hidle h]

theorem Settled.move (h : r.Settled) (hr : r.move? = some r') : r'.Settled := by
  obtain ⟨controllers, servers, log, rfl, -⟩ := move?_cases hr
  exact h

/-- What happens from outside changes the signal, the server and the log. -/
theorem suffer_cases (r : Run) (action : Action) : ∃ signal server log,
    r.suffer action =
      { r with signal := signal, world := { r.world with server := server }, log := log } := by
  cases action with
  | update change =>
    unfold suffer
    dsimp only
    split
    · exact ⟨_, _, _, rfl⟩
    · exact ⟨_, _, _, rfl⟩
  | shutdown | dropSender | setUnavailable => exact ⟨_, _, _, rfl⟩

theorem foldl_suffer_cases (r : Run) (due : List (Nat × Action)) : ∃ signal server log,
    due.foldl (fun r entry => r.suffer entry.2) r =
      { r with signal := signal, world := { r.world with server := server }, log := log } := by
  induction due generalizing r with
  | nil => exact ⟨_, _, _, rfl⟩
  | cons entry due ih =>
    obtain ⟨signal, server, log, h⟩ := r.suffer_cases entry.2
    rw [List.foldl_cons, h]
    exact ih _

theorem Orderly.arrive {time : Nat} (h : r.Orderly) (htime : r.time ≤ time) :
    (r.arrive time).Orderly ∧ (r.arrive time).turn = .opening ∧
      (r.arrive time).grace = r.grace := by
  unfold Run.arrive
  dsimp only
  obtain ⟨signal, server, log, hsuffer⟩ := foldl_suffer_cases
    { r with
      time := time
      turn := .opening
      world := { r.world with time := time }
      agenda := r.agenda.filter (time < ·.1) }
    (r.agenda.filter (·.1 ≤ time))
  rw [hsuffer]
  refine ⟨?_, rfl, rfl⟩
  unfold Orderly at h ⊢
  cases hphase : r.phase with
  | electing activity =>
    simp only [hphase] at h ⊢
    obtain ⟨hactivity, hcontrollers, hstopped, hguard⟩ := h
    exact ⟨hactivity, hcontrollers, hstopped,
      World.At.renewAll hguard Candidate.guardless_lasts⟩
  | leading =>
    simp only [hphase] at h ⊢
    exact ⟨h.1, World.At.renewAll h.2 Candidate.seated_lasts⟩
  | drainingControllers outcome deadline =>
    simp only [hphase] at h ⊢
    obtain ⟨stopped, hle, hrest⟩ := h
    exact ⟨stopped, Nat.le_trans hle htime, hrest⟩
  | drainingServers | releasing | «over» | crashed =>
    simp only [hphase] at h ⊢
    exact h

/-! ### Runs -/

/-- What holds of every run. -/
structure Governed (r : Run) (grace : Nat) : Prop where
  orderly : r.Orderly
  settled : r.turn ≠ .opening → r.Settled
  grace_eq : r.grace = grace

theorem Governed.tick {grace : Nat} (h : r.Governed grace) (htick : r.tick limit = some r') :
    r'.Governed grace := by
  unfold Run.tick at htick
  split_ifs at htick
  cases hturn : r.turn with
  | opening =>
    simp only [hturn] at htick
    cases hdecide : r.decide? with
    | some decided =>
      simp only [hdecide, Option.some.injEq] at htick
      subst htick
      have hdecision := h.orderly.decide hdecide
      exact ⟨hdecision.orderly, fun hne => absurd (hdecision.turn.trans hturn) hne,
        hdecision.grace.trans h.grace_eq⟩
    | none =>
      simp only [hdecide, Option.some.injEq] at htick
      subst htick
      have hsettled : r.Settled := settled_of_decide? hdecide
      exact ⟨h.orderly, fun _ => hsettled, h.grace_eq⟩
  | tasks =>
    simp only [hturn] at htick
    have hsettled : r.Settled := h.settled (by rw [hturn]; decide)
    cases hmove : r.move? with
    | some moved =>
      simp only [hmove, Option.some.injEq] at htick
      subst htick
      obtain ⟨controllers, servers, log, hmoved, -⟩ := move?_cases hmove
      exact ⟨h.orderly.move hmove, fun _ => hsettled.move hmove, hmoved ▸ h.grace_eq⟩
    | none =>
      simp only [hmove, Option.some.injEq] at htick
      subst htick
      exact ⟨h.orderly, fun _ => hsettled, h.grace_eq⟩
  | closing =>
    simp only [hturn] at htick
    cases hdecide : r.decide? with
    | some decided =>
      simp only [hdecide, Option.some.injEq] at htick
      subst htick
      have hdecision := h.orderly.decide hdecide
      exact ⟨hdecision.orderly, fun hne => absurd rfl hne, hdecision.grace.trans h.grace_eq⟩
    | none =>
      simp only [hdecide] at htick
      split at htick
      · split_ifs at htick
        cases htick
        obtain ⟨horderly, hopening, hgrace⟩ := h.orderly.arrive (Nat.le_max_right _ r.time)
        exact ⟨horderly, fun hne => absurd hopening hne, hgrace.trans h.grace_eq⟩
      · cases htick

/-- Where no controller runs, none goes on in another way. -/
theorem Orderly.behave (h : r.Orderly) {i : Nat} {t : ControllerTask}
    (ht : r.controllers[i]? = some t) (hover : t.isOver = false) (state : ControllerState) :
    Orderly { r with controllers := r.controllers.set i { t with state := state } } := by
  have hruns : r.controllers.all ControllerTask.isOver ≠ true := by
    intro hall
    rw [List.all_eq_true.1 hall t (List.mem_of_getElem? ht)] at hover
    cases hover
  unfold Orderly at h ⊢
  cases hphase : r.phase with
  | electing activity =>
    simp only [hphase] at h
    exact absurd (by rw [h.2.1]; rfl) hruns
  | leading | drainingControllers =>
    simp only [hphase] at h ⊢
    exact h
  | drainingServers | releasing | «over» | crashed =>
    simp only [hphase] at h
    exact absurd h hruns

theorem governed_start (helection : m.election.isSome) : (Run.start m s).Governed m.grace := by
  obtain ⟨election, helection⟩ := Option.isSome_iff_exists.1 helection
  unfold Run.start
  dsimp only
  split
  · exact ⟨rfl, fun hne => absurd rfl hne, rfl⟩
  · rename_i servers hservers
    split_ifs
    · exact ⟨rfl, fun hne => absurd rfl hne, rfl⟩
    · rw [helection]
      exact ⟨⟨⟨_, rfl⟩, rfl, rfl, ⟨election.elector, false, none⟩, rfl, rfl⟩,
        fun hne => absurd rfl hne, rfl⟩

/-- **Controllers run for a leader, or are draining**: they were asked to stop, and the time for it
is not over. -/
theorem Governed.led_or_draining {grace : Nat} (h : r.Governed grace) (hyields : r.Yields)
    (hworks : r.works = true) :
    r.isLed = true ∨
      ∃ stopped, r.stopped = some stopped ∧ stopped ≤ r.time ∧ r.time < stopped + grace := by
  obtain ⟨horderly, hsettled, hgrace⟩ := h
  have hsettled : r.Settled := by
    rcases hyields with hturn | hdecide
    · exact hsettled (by rw [hturn]; decide)
    · exact settled_of_decide? hdecide
  have hidle : r.controllers.all ControllerTask.isOver ≠ true := not_idle_of_works hworks
  unfold Orderly at horderly
  unfold Settled at hsettled
  cases hphase : r.phase with
  | electing activity =>
    simp only [hphase] at horderly
    exact absurd (by rw [horderly.2.1]; rfl) hidle
  | leading =>
    simp only [hphase] at horderly hsettled
    obtain ⟨-, c, hc, g, hg, hleader⟩ := horderly
    left
    rcases hleader with hleader | ⟨time, hlost⟩
    · rw [isLed, hc]
      exact hleader
    -- A manager that still leads has not seen a loss, and it would see one at once.
    · simp [leadershipLost, hc, hg, hlost, Election.Renewal.isOver] at hsettled
  | drainingControllers outcome deadline =>
    simp only [hphase] at horderly hsettled
    obtain ⟨stopped, hle, hstopped, rfl⟩ := horderly
    exact .inr ⟨stopped, hstopped, hle, hgrace ▸ hsettled⟩
  | drainingServers | releasing | «over» | crashed =>
    simp only [hphase] at horderly
    exact absurd horderly hidle

end Run

end ControllerManager.Manager
