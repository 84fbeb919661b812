import ControllerManager.Proofs.Manager.Dealings
import ControllerManager.Proofs.Manager.Result

/-!
# The time to stop

Once a run is decided, its controllers have a limited time to stop, and after them the servers have
the same time once more. Nobody is aborted before the time is over, and whoever still runs then is
aborted at that moment. A run that awaited the lease drains its servers alone. Only the release of
the lease may take longer, for as long as its requests are under way.

## Main definitions

* `Manager.Run.Spends` — a course with the time for which a release waited for an answer.
* `Manager.Run.Emptied` — the tasks that are over, phase by phase.
* `Manager.Run.Paced` — where a decided run stands in time, phase by phase.
* `Manager.Run.Drains` — how a run drains its tasks.

## Main results

* `Manager.Run.Happens.aborted` — who is aborted, and when.
* `Manager.Run.Paced.happens` — no phase takes longer than it may.
* `Manager.Run.Spends.decidedAt`, `Manager.Run.DecidedAt.drains` — how every decided run drains its
  tasks.
-/

namespace ControllerManager.Manager

open Simulation

/-- Until when tasks are given to stop. -/
def Phase.deadline? : Phase → Option Nat
  | .drainingControllers _ deadline | .drainingServers _ _ deadline => some deadline
  | _ => none

theorem Phase.phaseTime_of_deadline? {p : Phase} {deadline : Nat}
    (h : p.deadline? = some deadline) : Run.phaseTime p = some deadline := by
  cases p <;> first | exact h | cases h

namespace Run

variable {m : Manager} {s : Surroundings} {r r' c : Run} {o : Option Error}
  {led : Bool} {stop extra n : Nat}

/-! ### Time -/

theorem Happens.time_le (h : r.Happens r') : r.time ≤ r'.time := by
  cases h with
  | serve | behave | destine => exact Nat.le_refl _
  | tick limit htick =>
    cases advances_of_tick htick with
    | decide hturn hdecide => exact Nat.le_of_eq (decides_of_decide? hdecide).stays.time.symm
    | yield | rest => exact Nat.le_refl _
    | move hturn hmove =>
      obtain ⟨controllers, servers, log, rfl, -⟩ := move?_cases hmove
      exact Nat.le_refl _
    | @wait time =>
      obtain ⟨signal, server, log, heq⟩ := r.arrive_cases (max time r.time)
      rw [heq]
      exact Nat.le_max_right _ _

/-- A request of the release is under way. -/
def awaitsAnswer (r : Run) : Bool :=
  match r.phase with
  | .releasing (.releasing _ _ (some _)) => true
  | _ => false

/-- A course of a run, with the time for which a request of the release was under way. -/
inductive Spends (r : Run) : Nat → Run → Prop
  | refl : Spends r 0 r
  | tail {n : Nat} {b c : Run} (h : Spends r n b) (hhappens : b.Happens c) :
      Spends r (n + if b.awaitsAnswer then c.time - b.time else 0) c

theorem Spends.course (h : r.Spends n r') : r.Course r' := by
  induction h with
  | refl => exact .refl
  | tail _ hhappens ih => exact ih.tail hhappens

theorem Course.spends (h : r.Course r') : ∃ n, r.Spends n r' := by
  induction h with
  | refl => exact ⟨0, .refl⟩
  | tail _ hhappens ih =>
    obtain ⟨n, hspends⟩ := ih
    exact ⟨_, hspends.tail hhappens⟩

/-! ### Who is over -/

/-- The tasks that are over: the controllers while the servers have to stop, and all tasks after
that. -/
def Emptied (r : Run) : Prop :=
  match r.phase with
  | .drainingServers _ _ _ => r.controllers.all ControllerTask.isOver = true
  | .releasing _ | .over _ =>
    r.controllers.all ControllerTask.isOver = true ∧ r.servers.all ServerTask.isOver = true
  | .electing _ | .leading | .drainingControllers _ _ | .crashed => True

theorem emptied_of_isOpen (h : r.phase.isOpen = true) : r.Emptied := by
  unfold Emptied
  cases hphase : r.phase with
  | electing | leading | drainingControllers | crashed => trivial
  | drainingServers | releasing | «over» =>
    rw [hphase] at h
    cases h

/-- Where the phase stays, it is enough that what is over stays over. -/
theorem Emptied.of_tasks (h : r.Emptied) (hphase : r'.phase = r.phase)
    (hcontrollers : r.controllers.all ControllerTask.isOver = true →
      r'.controllers.all ControllerTask.isOver = true)
    (hservers : r.servers.all ServerTask.isOver = true →
      r'.servers.all ServerTask.isOver = true) : r'.Emptied := by
  unfold Emptied at h ⊢
  rw [hphase]
  cases hr : r.phase with
  | electing | leading | drainingControllers | crashed => trivial
  | drainingServers =>
    simp only [hr] at h
    exact hcontrollers h
  | releasing | «over» =>
    simp only [hr] at h
    exact ⟨hcontrollers h.1, hservers h.2⟩

theorem not_all_over_of_runs {t : ControllerTask} (ht : t ∈ r.controllers)
    (hruns : t.isOver = false) : r.controllers.all ControllerTask.isOver ≠ true := fun hall => by
  rw [List.all_eq_true.1 hall t ht] at hruns
  cases hruns

theorem not_all_over_of_serves {t : ServerTask} (ht : t ∈ r.servers)
    (hruns : t.isOver = false) : r.servers.all ServerTask.isOver ≠ true := fun hall => by
  rw [List.all_eq_true.1 hall t ht] at hruns
  cases hruns

theorem emptied_finish (hcontrollers : r.controllers.all ControllerTask.isOver = true)
    (hservers : r.servers.all ServerTask.isOver = true) (outcome : Option Error) (led : Bool) :
    (r.finish outcome led).Emptied := by
  rcases r.finish_cases outcome led with ⟨-, -, world, activity, -, heq⟩ | ⟨world, log, heq, -⟩
  all_goals
    rw [heq]
    exact ⟨hcontrollers, hservers⟩

theorem Decides.emptied (hdecides : r.Decides r') (h : r.Emptied)
    (hnobody : ∀ activity, r.phase = .electing activity → r.controllers = []) : r'.Emptied := by
  cases hdecides with
  | abandon hphase | failEarly hphase =>
    show r.controllers.all ControllerTask.isOver = true
    rw [hnobody _ hphase]
    rfl
  | elect hphase hsignal hexit helect =>
    obtain ⟨world, progress, -, ⟨next, log, -, rfl, -⟩ | ⟨-, rfl⟩ | ⟨-, rfl⟩⟩ := elect_cases helect
    all_goals trivial
  | stop | lose | fail => trivial
  | @note t ending hphase =>
    rcases r.noteEnding_cases t ending with ⟨error, -, heq⟩ | ⟨-, heq⟩
    · rw [heq]
      trivial
    · rw [heq]
      exact emptied_of_isOpen (congrArg Phase.isOpen hphase)
  | drained hphase hover => exact hover
  | abort hphase hlate =>
    show (r.controllers.map ControllerTask.abort).all ControllerTask.isOver = true
    simp [isOver_abort]
  | finish hphase hover =>
    simp only [Emptied, hphase] at h
    exact emptied_finish h hover _ _
  | abortServers hphase hlate =>
    simp only [Emptied, hphase] at h
    exact emptied_finish (r := Run.note { r with servers := r.servers.map ServerTask.abort } _) h
      (stopped_abort r.servers) _ _
  | handBack hphase hback =>
    simp only [Emptied, hphase] at h
    obtain ⟨world, progress, -, ⟨next, -, rfl⟩ | ⟨-, log, rfl, -⟩⟩ := handBack_cases hback
    all_goals exact h

theorem Happens.emptied (hhappens : r.Happens r') (h : r.Emptied)
    (hnobody : ∀ activity, r.phase = .electing activity → r.controllers = []) : r'.Emptied := by
  cases hhappens with
  | serve => exact h.of_tasks rfl id id
  | behave i t state ht hruns =>
    exact h.of_tasks rfl
      (fun hall => absurd hall (not_all_over_of_runs (List.mem_of_getElem? ht) hruns)) id
  | destine i t exit lingering ht hruns =>
    exact h.of_tasks rfl id
      fun hall => absurd hall (not_all_over_of_serves (List.mem_of_getElem? ht) hruns)
  | tick limit htick =>
    cases advances_of_tick htick with
    | decide hturn hdecide =>
      exact ((decides_of_decide? hdecide).emptied h hnobody).of_tasks rfl id id
    | yield | rest => exact h.of_tasks rfl id id
    | move hturn hmove =>
      rcases move_cases hmove with ⟨i, t, state, log, ht, hruns, -, -, rfl⟩ |
        ⟨i, t, failure, ht, hruns, rfl⟩
      · exact h.of_tasks rfl
          (fun hall => absurd hall (not_all_over_of_runs (List.mem_of_getElem? ht) hruns)) id
      · exact h.of_tasks rfl id
          fun hall => absurd hall (not_all_over_of_serves (List.mem_of_getElem? ht) hruns)
    | @wait time =>
      obtain ⟨signal, server, log, heq⟩ := r.arrive_cases (max time r.time)
      rw [heq]
      exact h.of_tasks rfl id id

/-- **Nobody runs in a phase that has no use for it**, in every course of a run. -/
theorem Course.emptied (h : (start m s).Course r) : r.Emptied := by
  induction h with
  | refl =>
    obtain ⟨error, -, heq⟩ | ⟨servers, -, ⟨-, heq⟩ | ⟨-, ⟨election, -, heq⟩ | ⟨-, heq⟩⟩⟩ :=
      start_cases m s
    · rw [heq]
      exact ⟨rfl, rfl⟩
    all_goals
      rw [heq]
      trivial
  | tail hcourse hhappens ih =>
    refine hhappens.emptied ih fun activity hphase => ?_
    obtain ⟨election, phase, -, hseeking⟩ := Course.seeking hcourse hphase
    exact hseeking.controllers

/-! ### Who is aborted -/

theorem mem_of_aborted_noteEnd {name : String} {tasks : List ControllerTask} {t : ControllerTask}
    (ht : t ∈ noteEnd name tasks) (haborted : t.state = .aborted) : t ∈ tasks := by
  rcases mem_noteEnd ht with hold | ⟨t', -, ending, noted, -, -, hended⟩
  · exact hold
  · cases haborted.symm.trans hended

/-- A decision aborts only when the time for it is over. -/
theorem Decides.aborted (h : r.Decides r') :
    (∀ t ∈ r'.controllers, t.state = .aborted → t ∈ r.controllers ∨
      ∃ outcome deadline, r.phase = .drainingControllers outcome deadline ∧ deadline ≤ r.time) ∧
    (∀ t ∈ r'.servers, t.state = .aborted → t ∈ r.servers ∨
      ∃ outcome led deadline, r.phase = .drainingServers outcome led deadline ∧
        deadline ≤ r.time) := by
  cases h with
  | abandon | failEarly | stop | lose | fail | drained =>
    exact ⟨fun _ ht _ => .inl ht, fun _ ht _ => .inl ht⟩
  | elect hphase hsignal hexit helect =>
    obtain ⟨world, progress, -, ⟨next, log, -, rfl, -⟩ | ⟨-, rfl⟩ | ⟨-, rfl⟩⟩ := elect_cases helect
    · exact ⟨fun _ ht _ => .inl ht, fun _ ht _ => .inl ht⟩
    · refine ⟨fun t ht haborted => ?_, fun _ ht _ => .inl ht⟩
      obtain ⟨c, -, rfl⟩ := List.mem_map.1 ht
      cases haborted
    · exact ⟨fun _ ht _ => .inl ht, fun _ ht _ => .inl ht⟩
  | @note t ending hphase =>
    rcases r.noteEnding_cases t ending with ⟨error, -, heq⟩ | ⟨-, heq⟩
    all_goals
      rw [heq]
      exact ⟨fun _ ht haborted => .inl (mem_of_aborted_noteEnd ht haborted),
        fun _ ht _ => .inl ht⟩
  | abort hphase hlate => exact ⟨fun _ _ _ => .inr ⟨_, _, hphase, hlate⟩, fun _ ht _ => .inl ht⟩
  | finish =>
    rw [(tasks_finish _ _ _).1, (tasks_finish _ _ _).2]
    exact ⟨fun _ ht _ => .inl ht, fun _ ht _ => .inl ht⟩
  | abortServers hphase hlate =>
    rw [(tasks_finish _ _ _).1, (tasks_finish _ _ _).2]
    exact ⟨fun _ ht _ => .inl ht, fun _ _ _ => .inr ⟨_, _, _, hphase, hlate⟩⟩
  | handBack hphase hback =>
    obtain ⟨world, progress, -, ⟨next, -, rfl⟩ | ⟨-, log, rfl, -⟩⟩ := handBack_cases hback
    all_goals exact ⟨fun _ ht _ => .inl ht, fun _ ht _ => .inl ht⟩

/-- **Who is aborted.** Of everything that happens to a run, only the decisions that the time to
stop is over abort anybody. -/
theorem Happens.aborted (h : r.Happens r') :
    (∀ t ∈ r'.controllers, t.state = .aborted → t ∈ r.controllers ∨
      ∃ outcome deadline, r.phase = .drainingControllers outcome deadline ∧ deadline ≤ r.time) ∧
    (∀ t ∈ r'.servers, t.state = .aborted → t ∈ r.servers ∨
      ∃ outcome led deadline, r.phase = .drainingServers outcome led deadline ∧
        deadline ≤ r.time) := by
  have hcontroller : ∀ {i : Nat} {t : ControllerTask} {state : ControllerState}, state.Own →
      ∀ t' ∈ r.controllers.set i { t with state := state }, t'.state = .aborted →
        t' ∈ r.controllers := by
    intro i t state hown t' ht' haborted
    rcases List.mem_or_eq_of_mem_set ht' with hold | rfl
    · exact hold
    · rw [show state = .aborted from haborted] at hown
      exact hown.elim
  cases h with
  | serve => exact ⟨fun _ ht _ => .inl ht, fun _ ht _ => .inl ht⟩
  | behave i t state ht hruns hown =>
    exact ⟨fun t' ht' haborted => .inl (hcontroller hown t' ht' haborted), fun _ ht _ => .inl ht⟩
  | destine i t exit lingering ht hruns =>
    refine ⟨fun _ ht _ => .inl ht, fun t' ht' haborted => ?_⟩
    rcases List.mem_or_eq_of_mem_set ht' with hold | rfl
    · exact .inl hold
    · rw [ServerTask.isOver, show t.state = .aborted from haborted] at hruns
      cases hruns
  | tick limit htick =>
    cases advances_of_tick htick with
    | decide hturn hdecide => exact (decides_of_decide? hdecide).aborted
    | yield | rest => exact ⟨fun _ ht _ => .inl ht, fun _ ht _ => .inl ht⟩
    | move hturn hmove =>
      rcases move_cases hmove with ⟨i, t, state, log, ht, hruns, hown, -, rfl⟩ |
        ⟨i, t, failure, ht, hruns, rfl⟩
      · exact ⟨fun t' ht' haborted => .inl (hcontroller hown t' ht' haborted),
          fun _ ht _ => .inl ht⟩
      · refine ⟨fun _ ht _ => .inl ht, fun t' ht' haborted => ?_⟩
        rcases List.mem_or_eq_of_mem_set ht' with hold | rfl
        · exact .inl hold
        · cases haborted
    | @wait time =>
      obtain ⟨signal, server, log, heq⟩ := r.arrive_cases (max time r.time)
      rw [heq]
      exact ⟨fun _ ht _ => .inl ht, fun _ ht _ => .inl ht⟩

/-- Before a run is decided nobody is aborted. -/
theorem Course.unaborted (h : (start m s).Course r) (hopen : r.phase.isOpen = true) :
    (∀ t ∈ r.controllers, t.state ≠ .aborted) ∧ ∀ t ∈ r.servers, t.state ≠ .aborted := by
  induction h with
  | refl =>
    obtain ⟨error, -, heq⟩ | ⟨servers, hlisten, ⟨-, heq⟩ | ⟨-, ⟨election, -, heq⟩ | ⟨-, heq⟩⟩⟩ :=
      start_cases m s
    · rw [heq] at hopen
      cases hopen
    · rw [heq] at hopen
      cases hopen
    all_goals
      have hserve : ∀ t ∈ servers, t.state ≠ .aborted := fun t ht haborted => by
        cases (serving_of_serverTasks hlisten t ht).symm.trans haborted
      rw [heq]
    · exact ⟨fun _ ht => (List.not_mem_nil ht).elim, hserve⟩
    · refine ⟨fun t ht haborted => ?_, hserve⟩
      obtain ⟨c, -, rfl⟩ := List.mem_map.1 ht
      cases haborted
  | @tail b c hcourse hhappens ih =>
    have hb : b.phase.isOpen = true := hhappens.isOpen hopen
    obtain ⟨hcontrollers, hservers⟩ := hhappens.aborted
    refine ⟨fun t ht haborted => ?_, fun t ht haborted => ?_⟩
    · rcases hcontrollers t ht haborted with hold | ⟨outcome, deadline, hphase, -⟩
      · exact (ih hb).1 t hold haborted
      · rw [hphase] at hb
        cases hb
    · rcases hservers t ht haborted with hold | ⟨outcome, led, deadline, hphase, -⟩
      · exact (ih hb).2 t hold haborted
      · rw [hphase] at hb
        cases hb

/-! ### The pace of a decided run -/

/-- The latest moment at which the controllers of a run are over that was decided at `stop`, when it
had led or not. -/
def latestStop (led : Bool) (stop grace : Nat) : Nat := if led then stop + grace else stop

/-- What the phase of a run says about its time that was decided at `stop`, when it had `led` or
not. The release of the lease has waited for answers for a time of `extra`. -/
def Placed (led : Bool) (stop extra : Nat) (r : Run) : Prop :=
  match r.phase with
  | .drainingControllers _ deadline => led = true ∧ deadline = stop + r.grace
  | .drainingServers _ led' deadline =>
    led' = led ∧ ∃ since, stop ≤ since ∧ since ≤ latestStop led stop r.grace ∧
      deadline = since + r.grace
  | .releasing _ => led = true ∧ r.time ≤ latestStop led stop r.grace + r.grace + extra
  | .over _ => r.time ≤ latestStop led stop r.grace + r.grace + extra
  | .electing _ | .leading | .crashed => False

/-- Where a decided run stands in time. While tasks have to stop, the deadline for it has not passed
once the manager has decided. -/
structure Paced (led : Bool) (stop extra : Nat) (r : Run) : Prop where
  begun : stop ≤ r.time
  within : ∀ deadline, r.phase.deadline? = some deadline →
    r.time ≤ deadline ∧ (r.turn = .opening ∨ r.time < deadline)
  placed : r.Placed led stop extra

theorem Placed.outcome (h : r.Placed led stop extra) : ∃ o, r.phase.outcome? = some o := by
  unfold Placed at h
  cases hphase : r.phase with
  | electing | leading | crashed =>
    rw [hphase] at h
    exact h.elim
  | drainingControllers outcome | drainingServers outcome | «over» outcome => exact ⟨outcome, rfl⟩
  | releasing => exact ⟨none, rfl⟩

theorem Placed.not_open (h : r.Placed led stop extra) : r.phase.isOpen = false := by
  obtain ⟨o, ho⟩ := h.outcome
  exact eq_false_of_ne_true fun hopen => nomatch (Phase.outcome?_of_isOpen hopen).symm.trans ho

/-- The pace is about the clock, the turn and the phase. -/
theorem Paced.congr (h : r.Paced led stop extra) (htime : r'.time = r.time)
    (hturn : r'.turn = r.turn) (hgrace : r'.grace = r.grace) (hphase : r'.phase = r.phase) :
    r'.Paced led stop extra := by
  obtain ⟨hbegun, hwithin, hplaced⟩ := h
  refine ⟨htime ▸ hbegun, ?_, ?_⟩
  · rw [htime, hturn, hphase]
    exact hwithin
  · unfold Placed at hplaced ⊢
    rw [htime, hgrace, hphase]
    exact hplaced

/-- Another turn, while the deadline has not passed. -/
theorem Paced.setTurn (h : r.Paced led stop extra)
    (hlt : ∀ deadline, r.phase.deadline? = some deadline → r.time < deadline) (turn : Turn) :
    Paced led stop extra { r with turn := turn } :=
  ⟨h.begun, fun deadline hd => ⟨(h.within deadline hd).1, .inr (hlt deadline hd)⟩, h.placed⟩

theorem placed_finish (h : r.Placed led stop extra) {outcome : Option Error} {led' : Bool}
    {deadline : Nat} (hphase : r.phase = .drainingServers outcome led' deadline)
    (htime : r.time ≤ deadline) (hgrace : r'.grace = r.grace) (hsame : r'.time = r.time) :
    (r'.finish outcome led').Placed led stop extra := by
  simp only [Placed, hphase] at h
  obtain ⟨rfl, since, -, hsince, rfl⟩ := h
  have hbound : r'.time ≤ latestStop led' stop r'.grace + r'.grace + extra := by
    rw [hsame, hgrace]
    omega
  rcases r'.finish_cases outcome led' with
    ⟨rfl, -, world, activity, -, heq⟩ | ⟨world, log, heq, -⟩
  · rw [heq]
    exact ⟨rfl, hbound⟩
  · rw [heq]
    exact hbound

/-- Once the controllers are over, the servers have their time from then on. -/
theorem Paced.placed_enter (h : r.Paced led stop extra) (r' : Run)
    {outcome outcome' : Option Error} {deadline : Nat}
    (hphase : r.phase = .drainingControllers outcome deadline)
    (htime : r'.time = r.time) (hgrace : r'.grace = r.grace) :
    (r'.enter (.drainingServers outcome' true r'.deadline)).Placed led stop extra := by
  have hplaced := h.placed
  simp only [Placed, hphase] at hplaced
  obtain ⟨rfl, rfl⟩ := hplaced
  have hbefore := (h.within _ (by rw [hphase]; rfl)).1
  refine ⟨rfl, r'.time, htime ▸ h.begun, ?_, rfl⟩
  rw [htime]
  show r.time ≤ stop + r'.grace
  rwa [hgrace]

theorem Decides.paced (hdecides : r.Decides r') (h : r.Paced led stop extra) :
    Paced led stop extra { r' with turn := .opening } := by
  have hnot := h.placed.not_open
  have hplaced := h.placed
  have hstays := hdecides.stays
  suffices hgoal : r'.Placed led stop extra ∧
      ∀ deadline, r'.phase.deadline? = some deadline → r'.time ≤ deadline from
    ⟨hstays.time ▸ h.begun, fun deadline hd => ⟨hgoal.2 deadline hd, .inl rfl⟩, hgoal.1⟩
  cases hdecides with
  | abandon hphase | failEarly hphase | elect hphase | stop hphase | lose hphase | fail hphase
  | note hphase =>
    rw [hphase] at hnot
    cases hnot
  | drained hphase hover =>
    exact ⟨h.placed_enter r hphase rfl rfl, fun _ hd => by cases hd; exact Nat.le_add_right _ _⟩
  | abort hphase hlate =>
    exact ⟨h.placed_enter { r with controllers := _, log := _ } hphase rfl rfl,
      fun _ hd => by cases hd; exact Nat.le_add_right _ _⟩
  | finish hphase | abortServers hphase =>
    have hbefore := (h.within _ (by rw [hphase]; rfl)).1
    exact ⟨placed_finish hplaced hphase hbefore rfl rfl, fun _ => phase_finish
      (motive := fun p => p.deadline? = some _ → _) _ _ _ (fun _ => nofun) nofun⟩
  | handBack hphase hback =>
    simp only [Placed, hphase] at hplaced
    obtain ⟨rfl, htime⟩ := hplaced
    obtain ⟨world, progress, -, ⟨next, -, rfl⟩ | ⟨-, log, rfl, -⟩⟩ := handBack_cases hback
    · exact ⟨⟨rfl, htime⟩, nofun⟩
    · exact ⟨htime, nofun⟩

/-- While the manager has nothing to decide, the deadline of the phase has not come. -/
theorem Paced.lt_deadline (h : r.Paced led stop extra) (hyields : r.Yields) {deadline : Nat}
    (hd : r.phase.deadline? = some deadline) : r.time < deadline := by
  rcases hyields with hturn | hdecide
  · refine (h.within deadline hd).2.resolve_left fun hopening => ?_
    cases hturn.symm.trans hopening
  · unfold decide? at hdecide
    cases hphase : r.phase with
    | drainingControllers outcome deadline' | drainingServers outcome led' deadline' =>
      rw [hphase] at hd
      cases hd
      simp only [hphase] at hdecide
      split_ifs at hdecide with _ hlate
      exact Nat.lt_of_not_le hlate
    | electing | leading | releasing | «over» | crashed =>
      rw [hphase] at hd
      cases hd

/-- A run that has not led has no lease to give back. -/
theorem Paced.awaitsAnswer_eq_false (h : r.Paced false stop extra) : r.awaitsAnswer = false := by
  have hplaced := h.placed
  unfold Placed at hplaced
  unfold awaitsAnswer
  split
  · rename_i hphase
    rw [hphase] at hplaced
    cases hplaced.1
  · rfl

/-- The clock does not go beyond the deadline of a phase. While the lease is given back, it goes on
only if a request is under way. -/
theorem Paced.arrive (h : r.Paced led stop extra) (hsteady : r.Steady m) (hover : r.isOver = false)
    (hdecide : r.decide? = none) {next : Nat} (hnext : r.nextTime = some next) :
    (r.arrive (max next r.time)).Paced led stop
      (extra + if r.awaitsAnswer then max next r.time - r.time else 0) := by
  have houtcome : r.phase.outcome? ≠ none := fun hnone => by
    obtain ⟨o, ho⟩ := h.placed.outcome
    cases hnone.symm.trans ho
  obtain ⟨d, hd, hlt⟩ := hsteady.lt_phaseTime houtcome hover hdecide
  have hnextle : next ≤ d := (List.min?_eq_some_iff.1 hnext).2 d (by simp [hd])
  have hplaced := h.placed
  obtain ⟨signal, server, log, heq⟩ := r.arrive_cases (max next r.time)
  rw [heq]
  refine ⟨Nat.le_trans h.begun (Nat.le_max_right _ _), fun deadline hdeadline => ⟨?_, .inl rfl⟩, ?_⟩
  · have hsame := (Phase.phaseTime_of_deadline? hdeadline).symm.trans hd
    cases hsame
    exact Nat.max_le.2 ⟨hnextle, Nat.le_of_lt hlt⟩
  · unfold Placed at hplaced ⊢
    cases hphase : r.phase with
    | electing | leading | crashed =>
      rw [hphase] at hplaced
      exact hplaced.elim
    | drainingControllers outcome deadline =>
      rw [hphase] at hplaced
      exact hplaced
    | drainingServers outcome led' deadline =>
      rw [hphase] at hplaced
      exact hplaced
    | releasing activity =>
      simp only [hphase] at hplaced ⊢
      obtain ⟨-, release, due, rfl⟩ := hsteady.releasing activity hphase
      rw [hphase] at hd
      obtain rfl : due = some d := hd
      refine ⟨hplaced.1, ?_⟩
      simp only [awaitsAnswer, hphase, if_true]
      omega
    | «over» result =>
      rw [isOver, hphase] at hover
      cases hover

/-- **No phase takes longer than it may**, whatever happens to a decided run. -/
theorem Paced.happens (h : r.Paced led stop extra) (hcourse : (start m s).Course r)
    (hrests : m.Rests) (hhappens : r.Happens r') :
    r'.Paced led stop (extra + if r.awaitsAnswer then r'.time - r.time else 0) := by
  have hstill : ∀ {r' : Run}, r'.time = r.time → r'.Paced led stop extra →
      r'.Paced led stop (extra + if r.awaitsAnswer then r'.time - r.time else 0) := by
    intro r' htime h'
    simpa [htime] using h'
  cases hhappens with
  | serve | behave | destine => exact hstill rfl (h.congr rfl rfl rfl rfl)
  | tick limit htick =>
    have hover : r.isOver = false := by
      rw [tick] at htick
      split_ifs at htick with hover
      exact eq_false_of_ne_true hover
    have hsteady := hcourse.steady hrests
    cases advances_of_tick htick with
    | decide hturn hdecide =>
      have hdecides := decides_of_decide? hdecide
      exact hstill hdecides.stays.time (hdecides.paced h)
    | yield hturn hdecide =>
      exact hstill rfl (h.setTurn (fun _ hd => h.lt_deadline (.inr hdecide) hd) .tasks)
    | move hturn hmove =>
      obtain ⟨controllers, servers, log, rfl, -⟩ := move?_cases hmove
      exact hstill rfl (h.congr rfl rfl rfl rfl)
    | rest hturn hmove =>
      exact hstill rfl (h.setTurn (fun _ hd => h.lt_deadline (.inl hturn) hd) .closing)
    | @wait time hturn hdecide hnext =>
      have htime : (r.arrive (max time r.time)).time = max time r.time := by
        obtain ⟨signal, server, log, heq⟩ := r.arrive_cases (max time r.time)
        rw [heq]
      rw [htime]
      exact h.arrive hsteady hover hdecide hnext

/-! ### The decision -/

/-- A run that becomes decided gives its controllers their time, or where it awaited the lease, its
servers. -/
theorem Happens.concludes (h : r.Happens r') (hopen : r.phase.isOpen = true)
    (ho : r'.phase.outcome? = some o) :
    r'.time = r.time ∧ r'.turn = .opening ∧
      (r.phase = .leading ∧ r'.phase = .drainingControllers o (r.time + r.grace) ∨
        (∃ activity, r.phase = .electing activity) ∧
          r'.phase = .drainingServers o false (r.time + r.grace)) := by
  have hnone := Phase.outcome?_of_isOpen hopen
  cases h with
  | serve | behave | destine => cases hnone.symm.trans ho
  | tick limit htick =>
    cases advances_of_tick htick with
    | @decide decided hturn hdecide =>
      have hdecides := decides_of_decide? hdecide
      refine ⟨hdecides.stays.time, rfl, ?_⟩
      cases hdecides with
      | abandon hphase | failEarly hphase =>
        cases ho
        exact .inr ⟨⟨_, hphase⟩, rfl⟩
      | elect hphase hsignal hexit helect =>
        obtain ⟨world, progress, -, ⟨next, log, -, rfl, -⟩ | ⟨-, rfl⟩ | ⟨-, rfl⟩⟩ :=
          elect_cases helect
        all_goals cases ho
      | stop hphase | lose hphase | fail hphase =>
        cases ho
        exact .inl ⟨hphase, rfl⟩
      | @note t ending hphase =>
        rcases r.noteEnding_cases t ending with ⟨error, -, heq⟩ | ⟨-, heq⟩
        · rw [heq] at ho ⊢
          cases ho
          exact .inl ⟨hphase, rfl⟩
        · rw [heq] at ho
          cases hnone.symm.trans ho
      | drained hphase | abort hphase | finish hphase | abortServers hphase | handBack hphase =>
        rw [hphase] at hopen
        cases hopen
    | yield | rest => cases hnone.symm.trans ho
    | move hturn hmove =>
      obtain ⟨controllers, servers, log, rfl, -⟩ := move?_cases hmove
      cases hnone.symm.trans ho
    | @wait time =>
      obtain ⟨signal, server, log, heq⟩ := r.arrive_cases (max time r.time)
      rw [heq] at ho
      cases hnone.symm.trans ho

theorem Happens.paced_of_isOpen (h : r.Happens r') (hopen : r.phase.isOpen = true)
    (ho : r'.phase.outcome? = some o) :
    r.phase = .leading ∧ r'.Paced true r.time 0 ∨
      (∃ activity, r.phase = .electing activity) ∧ r'.Paced false r.time 0 := by
  obtain ⟨htime, hturn, hcases⟩ := h.concludes hopen ho
  have hgrace := h.keeps.grace
  have hwithin : ∀ deadline, deadline = r.time + r.grace →
      r'.time ≤ deadline ∧ (r'.turn = .opening ∨ r'.time < deadline) := by
    rintro deadline rfl
    exact ⟨by omega, .inl hturn⟩
  refine hcases.imp (fun ⟨hphase, hnext⟩ => ⟨hphase, htime.ge, fun deadline hd => ?_, ?_⟩)
    fun ⟨hphase, hnext⟩ => ⟨hphase, htime.ge, fun deadline hd => ?_, ?_⟩
  · rw [hnext] at hd
    exact hwithin deadline (Option.some.inj hd).symm
  · rw [Placed, hnext, hgrace]
    exact ⟨rfl, rfl⟩
  · rw [hnext] at hd
    exact hwithin deadline (Option.some.inj hd).symm
  · rw [Placed, hnext, hgrace]
    exact ⟨rfl, r.time, Nat.le_refl _, Nat.le_refl _, rfl⟩

/-- The abortions of a decided run come when its time to stop is over. -/
theorem Paced.aborts (h : r.Paced led stop extra) (hhappens : r.Happens r') :
    (∀ t ∈ r'.controllers, t.state = .aborted → t ∈ r.controllers ∨ r.time = stop + r.grace) ∧
      ∀ t ∈ r'.servers, t.state = .aborted → t ∈ r.servers ∨ stop + r.grace ≤ r.time := by
  have hplaced := h.placed
  unfold Placed at hplaced
  obtain ⟨hcontrollers, hservers⟩ := hhappens.aborted
  refine ⟨fun t ht haborted => (hcontrollers t ht haborted).imp_right ?_,
    fun t ht haborted => (hservers t ht haborted).imp_right ?_⟩
  · rintro ⟨outcome, deadline, hphase, hlate⟩
    rw [hphase] at hplaced
    obtain ⟨-, rfl⟩ := hplaced
    exact Nat.le_antisymm (h.within _ (by rw [hphase]; rfl)).1 hlate
  · rintro ⟨outcome, led', deadline, hphase, hlate⟩
    rw [hphase] at hplaced
    obtain ⟨-, since, hsince, -, rfl⟩ := hplaced
    omega

/-- The decision about a run was made at `d`, with the outcome `o`, and the run has gone on since
then in time. The release of the lease has waited for answers for a time of at most `n`. -/
structure DecidedAt (m : Manager) (s : Surroundings) (n : Nat) (o : Option Error) (d r : Run) :
    Prop where
  reached : (start m s).Course d
  course : d.Course r
  isOpen : d.phase.isOpen = true
  ends : d.Ends o
  stopped : r.stopped = some d.time
  paced : d.phase = .leading ∧ (∃ extra ≤ n, r.Paced true d.time extra) ∨
    (∃ activity, d.phase = .electing activity) ∧ r.controllers = [] ∧ r.Paced false d.time 0
  spared : ∀ t ∈ r.controllers, t.state = .aborted → d.time + m.grace ≤ r.time
  sparedServers : ∀ t ∈ r.servers, t.state = .aborted → d.time + m.grace ≤ r.time

theorem Course.grace (h : (start m s).Course r) : r.grace = m.grace := by
  rw [h.keeps.grace]
  obtain ⟨error, -, heq⟩ | ⟨servers, -, ⟨-, heq⟩ | ⟨-, ⟨election, -, heq⟩ | ⟨-, heq⟩⟩⟩ :=
    start_cases m s
  all_goals
    rw [heq]
    rfl

/-- The step that decides a run. -/
theorem Happens.decidedAt (h : r.Happens r') (hcourse : (start m s).Course r)
    (hopen : r.phase.isOpen = true) (ho : r'.phase.outcome? = some o) :
    DecidedAt m s n o r r' := by
  obtain ⟨hends, hstopped⟩ := h.decides hopen ho
  obtain ⟨hnone, hnoneServers⟩ := hcourse.unaborted hopen
  obtain ⟨hcontrollers, hservers⟩ := h.aborted
  refine ⟨hcourse, .single h, hopen, hends, ?_, ?_, fun t ht haborted => ?_,
    fun t ht haborted => ?_⟩
  · rw [hstopped, (hcourse.attends hopen).stopped]
    rfl
  · refine (h.paced_of_isOpen hopen ho).imp
      (fun ⟨hphase, hpaced⟩ => ⟨hphase, 0, Nat.zero_le _, hpaced⟩)
      fun ⟨⟨activity, hphase⟩, hpaced⟩ => ⟨⟨activity, hphase⟩, ?_, hpaced⟩
    obtain ⟨election, phase, -, hseeking⟩ := hcourse.seeking hphase
    rcases h.musters_or_quiet with hmusters | hquiet
    · rw [hmusters.phase] at ho
      cases ho
    · exact List.map_eq_nil_iff.1 (hquiet.names.trans (by rw [names, hseeking.controllers]; rfl))
  · rcases hcontrollers t ht haborted with hold | ⟨outcome, deadline, hphase, -⟩
    · exact absurd haborted (hnone t hold)
    · rw [hphase] at hopen
      cases hopen
  · rcases hservers t ht haborted with hold | ⟨outcome, led, deadline, hphase, -⟩
    · exact absurd haborted (hnoneServers t hold)
    · rw [hphase] at hopen
      cases hopen

/-- A decided run goes on in time. -/
theorem DecidedAt.happens {d : Run} (h : DecidedAt m s n o d r) (hrests : m.Rests)
    (hhappens : r.Happens r') (ho : r.phase.outcome? = some o) :
    DecidedAt m s (n + if r.awaitsAnswer then r'.time - r.time else 0) o d r' := by
  have hcourse : (start m s).Course r := h.reached.trans h.course
  have hgrace := hcourse.grace
  have htime := hhappens.time_le
  have haborts : (∀ t ∈ r'.controllers, t.state = .aborted →
        t ∈ r.controllers ∨ r.time = d.time + r.grace) ∧
      ∀ t ∈ r'.servers, t.state = .aborted → t ∈ r.servers ∨ d.time + r.grace ≤ r.time := by
    rcases h.paced with ⟨-, extra, -, hpaced⟩ | ⟨-, -, hpaced⟩
    all_goals exact hpaced.aborts hhappens
  refine ⟨h.reached, h.course.tail hhappens, h.isOpen, h.ends,
    (hhappens.outcome ho).2.trans h.stopped, ?_, fun t ht haborted => ?_, fun t ht haborted => ?_⟩
  · rcases h.paced with ⟨hphase, extra, hle, hpaced⟩ | ⟨hphase, hnobody, hpaced⟩
    · exact .inl ⟨hphase, _, Nat.add_le_add_right hle _, hpaced.happens hcourse hrests hhappens⟩
    · refine .inr ⟨hphase, ?_, ?_⟩
      · rcases hhappens.musters_or_quiet with ⟨activity, world, helecting, -⟩ | hquiet
        · rw [helecting] at ho
          cases ho
        · exact List.map_eq_nil_iff.1 (hquiet.names.trans (by rw [names, hnobody]; rfl))
      · have hnext := hpaced.happens hcourse hrests hhappens
        rwa [hpaced.awaitsAnswer_eq_false] at hnext
  · rcases haborts.1 t ht haborted with hold | hnow
    · exact Nat.le_trans (h.spared t hold haborted) htime
    · omega
  · rcases haborts.2 t ht haborted with hold | hlate
    · exact Nat.le_trans (h.sparedServers t hold haborted) htime
    · omega

theorem Spends.decidedAt (h : (start m s).Spends n r) (hopen : (start m s).phase.isOpen = true)
    (hrests : m.Rests) (ho : r.phase.outcome? = some o) : ∃ d, DecidedAt m s n o d r := by
  induction h generalizing o with
  | refl => cases (Phase.outcome?_of_isOpen hopen).symm.trans ho
  | @tail n b c hspends hhappens ih =>
    have hcourse := hspends.course
    rcases phase_cases b.phase with hb | ⟨o', ho'⟩ | hcrashed
    · exact ⟨b, hhappens.decidedAt hcourse hb ho⟩
    · obtain rfl : o' = o := Option.some.inj ((hhappens.outcome ho').1.symm.trans ho)
      obtain ⟨d, hd⟩ := ih ho'
      exact ⟨d, hd.happens hrests hhappens ho'⟩
    · have hstays := (Course.stays (.single hhappens) (by rw [isOver, hcrashed])).1
      rw [hstays, hcrashed] at ho
      cases ho

/-! ### The drain -/

/-- How a run drains its tasks that was decided at `stop` and gives them a time of `grace`. Its
servers are over at `last`, and it is over itself at most `extra` later. -/
structure Drains (stop grace last extra : Nat) (r : Run) : Prop where
  /-- Once the manager has decided, no controller runs when the time is over. -/
  controllers : r.Yields → ∀ t ∈ r.controllers, t.isOver = false → r.time < stop + grace
  servers : r.Yields → ∀ t ∈ r.servers, t.isOver = false → r.time < last
  /-- Nobody is aborted before the time is over. -/
  spared : ∀ t ∈ r.controllers, t.state = .aborted → stop + grace ≤ r.time
  sparedServers : ∀ t ∈ r.servers, t.state = .aborted → stop + grace ≤ r.time
  /-- A controller is aborted at the very moment at which the time is over. -/
  aborts : ∀ r', r.Happens r' → ∀ t ∈ r'.controllers, t.state = .aborted →
    t ∈ r.controllers ∨ r.time = stop + grace
  /-- If a controller still runs at that moment, what is done next is to abort all that do. -/
  late : stop + grace ≤ r.time → (∃ t ∈ r.controllers, t.isOver = false) → ∀ limit,
    ∃ r', r.tick limit = some r' ∧ r'.controllers = r.controllers.map ControllerTask.abort
  /-- The servers have the same time once more. -/
  given : ∀ outcome led deadline, r.phase = .drainingServers outcome led deadline →
    ∃ since, stop ≤ since ∧ deadline = since + grace ∧ r.time ≤ deadline ∧ deadline ≤ last
  emptied : r.isOver = true →
    r.controllers.all ControllerTask.isOver = true ∧ r.servers.all ServerTask.isOver = true
  returned : r.time ≤ last + extra

/-- Where a controller runs, the controllers of the run have their time to stop. -/
theorem Paced.draining_of_runs (h : r.Paced led stop extra) (hemptied : r.Emptied)
    {t : ControllerTask} (ht : t ∈ r.controllers) (hruns : t.isOver = false) :
    ∃ outcome, r.phase = .drainingControllers outcome (stop + r.grace) := by
  have hplaced := h.placed
  unfold Placed at hplaced
  unfold Emptied at hemptied
  cases hphase : r.phase with
  | drainingControllers outcome =>
    rw [hphase] at hplaced
    obtain ⟨-, rfl⟩ := hplaced
    exact ⟨outcome, rfl⟩
  | drainingServers =>
    rw [hphase] at hemptied
    exact absurd hemptied (not_all_over_of_runs ht hruns)
  | releasing | «over» =>
    rw [hphase] at hemptied
    exact absurd hemptied.1 (not_all_over_of_runs ht hruns)
  | electing | leading | crashed =>
    rw [hphase] at hplaced
    exact hplaced.elim

/-- When the time is over, what is done next is to abort the controllers that still run. -/
theorem Paced.tick_abort (h : r.Paced led stop extra) {outcome : Option Error} {deadline : Nat}
    (hphase : r.phase = .drainingControllers outcome deadline) (hlate : deadline ≤ r.time)
    {t : ControllerTask} (ht : t ∈ r.controllers) (hruns : t.isOver = false) (limit : Nat) :
    ∃ r', r.tick limit = some r' ∧ r'.controllers = r.controllers.map ControllerTask.abort := by
  have hturn : r.turn = .opening :=
    (h.within deadline (by rw [hphase]; rfl)).2.resolve_right (Nat.not_lt.2 hlate)
  have hover : r.isOver = false := by rw [isOver, hphase]
  have hdecide : ∃ r', r.decide? = some r' ∧
      r'.controllers = r.controllers.map ControllerTask.abort := by
    simp only [decide?, hphase, if_neg (not_all_over_of_runs ht hruns), if_pos hlate]
    exact ⟨_, rfl, rfl⟩
  obtain ⟨r', hdecide, hcontrollers⟩ := hdecide
  exact ⟨r', by simp [tick, hover, hturn, hdecide], hcontrollers⟩

theorem Paced.drains (h : r.Paced led stop extra) (hemptied : r.Emptied)
    (hspared : ∀ t ∈ r.controllers, t.state = .aborted → stop + r.grace ≤ r.time)
    (hsparedServers : ∀ t ∈ r.servers, t.state = .aborted → stop + r.grace ≤ r.time) :
    r.Drains stop r.grace (latestStop led stop r.grace + r.grace) extra := by
  have hdraining := fun t => h.draining_of_runs hemptied (t := t)
  have hplaced := h.placed
  unfold Placed at hplaced
  unfold Emptied at hemptied
  refine ⟨fun hyields t ht hruns => ?_, fun hyields t ht hruns => ?_, hspared, hsparedServers,
    fun r' hhappens => (h.aborts hhappens).1, fun hlate ⟨t, ht, hruns⟩ limit => ?_,
    fun outcome led' deadline hphase => ?_, fun hover => ?_, ?_⟩
  · obtain ⟨outcome, hphase⟩ := hdraining t ht hruns
    exact h.lt_deadline hyields (by rw [hphase]; rfl)
  · cases hphase : r.phase with
    | drainingControllers =>
      rw [hphase] at hplaced
      obtain ⟨rfl, rfl⟩ := hplaced
      exact Nat.lt_add_right _ (h.lt_deadline hyields (by rw [hphase]; rfl))
    | drainingServers =>
      rw [hphase] at hplaced
      obtain ⟨-, since, -, hle, rfl⟩ := hplaced
      have hlt := h.lt_deadline hyields (by rw [hphase]; rfl)
      omega
    | releasing | «over» =>
      rw [hphase] at hemptied
      exact absurd hemptied.2 (not_all_over_of_serves ht hruns)
    | electing | leading | crashed =>
      rw [hphase] at hplaced
      exact hplaced.elim
  · obtain ⟨outcome, hphase⟩ := hdraining t ht hruns
    exact h.tick_abort hphase hlate ht hruns limit
  · rw [hphase] at hplaced
    obtain ⟨-, since, hsince, hle, rfl⟩ := hplaced
    exact ⟨since, hsince, rfl, (h.within _ (by rw [hphase]; rfl)).1, Nat.add_le_add_right hle _⟩
  · cases hphase : r.phase with
    | «over» =>
      rw [hphase] at hemptied
      exact hemptied
    | crashed =>
      rw [hphase] at hplaced
      exact hplaced.elim
    | _ =>
      rw [isOver, hphase] at hover
      cases hover
  · cases hphase : r.phase with
    | drainingControllers =>
      have hbefore := (h.within _ (by rw [hphase]; rfl)).1
      rw [hphase] at hplaced
      obtain ⟨rfl, rfl⟩ := hplaced
      exact Nat.le_trans hbefore (Nat.le_trans (Nat.le_add_right _ _) (Nat.le_add_right _ _))
    | drainingServers =>
      have hbefore := (h.within _ (by rw [hphase]; rfl)).1
      rw [hphase] at hplaced
      obtain ⟨-, since, -, hle, rfl⟩ := hplaced
      omega
    | releasing =>
      rw [hphase] at hplaced
      exact hplaced.2
    | «over» =>
      rw [hphase] at hplaced
      exact hplaced
    | electing | leading | crashed =>
      rw [hphase] at hplaced
      exact hplaced.elim

theorem Drains.mono {grace last extra' : Nat} (h : r.Drains stop grace last extra)
    (hle : extra ≤ extra') : r.Drains stop grace last extra' :=
  { h with returned := Nat.le_trans h.returned (Nat.add_le_add_left hle _) }

/-- **How a decided run drains its tasks.** -/
theorem DecidedAt.drains {d : Run} (h : DecidedAt m s n o d r) :
    d.phase = .leading ∧ r.Drains d.time m.grace (d.time + 2 * m.grace) n ∨
      (∃ activity, d.phase = .electing activity) ∧ r.controllers = [] ∧
        r.Drains d.time m.grace (d.time + m.grace) 0 := by
  have hcourse : (start m s).Course r := h.reached.trans h.course
  have hemptied := hcourse.emptied
  have hspared := h.spared
  have hsparedServers := h.sparedServers
  rw [← hcourse.grace] at hspared hsparedServers ⊢
  rcases h.paced with ⟨hphase, extra, hle, hpaced⟩ | ⟨hphase, hnobody, hpaced⟩
  · have hlast : latestStop true d.time r.grace + r.grace = d.time + 2 * r.grace := by
      rw [latestStop, if_pos rfl]
      omega
    have hdrains := hpaced.drains hemptied hspared hsparedServers
    rw [hlast] at hdrains
    exact .inl ⟨hphase, hdrains.mono hle⟩
  · exact .inr ⟨hphase, hnobody, hpaced.drains hemptied hspared hsparedServers⟩

end Run

end ControllerManager.Manager
