import ControllerManager.Manager.Registration
import ControllerManager.Proofs.Manager.Course
import ControllerManager.Proofs.Manager.Lapse

/-!
# The calls of the controllers

Nothing calls a controller until every plain server listens and, where there is an election, until
the server has accepted a write after which the elector holds the lease. Then all controllers are
called, each of them once, in the order in which they were registered, and all with the same
context.

## Main definitions

* `Manager.Run.calls` — the calls of a run so far, and `Manager.roll` — all calls that are due.
* `Manager.Listens` — every plain server can listen at its address.
* `Manager.Run.Wins` — the step in which the lease is gained.

## Main results

* `Manager.Run.Happens.calls_cases` — what happens to a run calls nobody, or everybody.
* `Manager.Run.controllers_called_once` — who is called, in every course of a run.
-/

namespace ControllerManager.Manager

open Cluster Election Simulation

/-- The controller that was called, and what it was started with. -/
def Entry.call? : Entry → Option (String × Context)
  | .controllerCalled name context => some (name, context)
  | _ => none

/-- The calls that are due: one for each controller, in order of registration. -/
def roll (m : Manager) : List (String × Context) := m.controllers.names.map (·, m.context)

theorem roll_eq (m : Manager) : m.roll = m.controllers.entries.map fun c => (c.1, m.context) :=
  List.map_map

/-- A manager with an election and two controllers. -/
def pairManager : Manager :=
  { soleManager 0 [.hang] with
    controllers := ⟨[("first", [.hang]), ("second", [.report, .hang])], by decide⟩ }

/-- Every plain server that is asked for can listen at its address, the health server first. -/
structure Listens (m : Manager) (site : Site) : Prop where
  health : ∀ address, m.healthProbeAddress = some address →
    bindFailure? site .health address = none
  metrics : ∀ address, m.metricsAddress = some address →
    bindFailure? (m.healthProbeAddress.elim site site.occupy) .metrics address = none

/-- A phase before the leadership, in which the lease is awaited. -/
def Phase.awaits : Phase → Bool
  | .electing _ => true
  | _ => false

/-- A phase of a run that has not led. -/
def Phase.isUnled : Phase → Bool
  | .electing _ | .drainingServers _ false _ => true
  | _ => false

/-- A phase of a run that has led. -/
def Phase.hasLed : Phase → Bool
  | .leading | .drainingControllers _ _ | .drainingServers _ true _ | .releasing _ => true
  | .electing _ | .drainingServers _ false _ | .over _ | .crashed => false

namespace Run

variable {m : Manager} {s : Surroundings} {r r' b : Run}

/-- The calls of a run so far, in order. -/
def calls (r : Run) : List (String × Context) := r.log.reverse.filterMap (·.2.call?)

/-- The names of the controllers that were called. -/
def names (r : Run) : List String := r.controllers.map ControllerTask.name

/-- In this step the server accepts a write, after which the elector is the holder of the stored
lease. -/
structure Wins (election : LeaderElection) (r r' : Run) : Prop where
  accepted : ∃ call hold due l,
    r.phase = .electing (.acquiring 0 none (.attempting (.writing call hold) due)) ∧
      call.Claims election.elector.identity ∧ r.world.server.store.Accepts call l
  stored : ∃ l, r'.world.server.store.lease = some l ∧
    l.holder? = some election.elector.identity

/-! ### The log and the tasks -/

theorem calls_note (r : Run) (entry : Entry) (h : entry.call? = none) :
    (r.note entry).calls = r.calls := by
  simp [calls, note, h]

theorem calls_lead (r : Run) : r.lead.calls = r.calls ++ r.staff.map fun c => (c.1, r.context) := by
  have hstaff : (r.staff.map fun c => (r.time, Entry.controllerCalled c.1 r.context)).filterMap
      (·.2.call?) = r.staff.map fun c => (c.1, r.context) := by
    rw [List.filterMap_map]
    exact congrFun List.filterMap_eq_map r.staff
  simp only [calls, lead, List.reverse_append, List.filterMap_append, List.map_reverse,
    List.reverse_reverse, hstaff]

theorem names_noteEnd (name : String) (tasks : List ControllerTask) :
    (noteEnd name tasks).map ControllerTask.name = tasks.map ControllerTask.name := by
  rw [noteEnd, List.map_map]
  refine List.map_congr_left fun t _ => ?_
  dsimp only [Function.comp]
  split
  · split_ifs <;> rfl
  · rfl

theorem names_abort (tasks : List ControllerTask) :
    (tasks.map ControllerTask.abort).map ControllerTask.name = tasks.map ControllerTask.name := by
  rw [List.map_map]
  refine List.map_congr_left fun t _ => ?_
  dsimp only [Function.comp, ControllerTask.abort]
  split_ifs <;> rfl

theorem names_set {tasks : List ControllerTask} {i : Nat} {t : ControllerTask}
    (ht : tasks[i]? = some t) (state : ControllerState) :
    (tasks.set i { t with state := state }).map ControllerTask.name =
      tasks.map ControllerTask.name := by
  refine List.ext_getElem? fun j => ?_
  rw [List.getElem?_map, List.getElem?_map]
  by_cases hij : i = j
  · subst hij
    rw [List.getElem?_set_self (List.getElem?_eq_some_iff.1 ht).1, ht]
    rfl
  · rw [List.getElem?_set_ne hij]

theorem names_moveController {time : Nat} {stopped : Bool} {tasks tasks' : List ControllerTask}
    {told : String × Option Happening}
    (h : moveController time stopped tasks = some (tasks', told)) :
    tasks'.map ControllerTask.name = tasks.map ControllerTask.name := by
  obtain ⟨i, t, state, ht, -, -, -, rfl⟩ := moveController_cases h
  exact names_set ht state

/-! ### Steps in which nobody is called -/

/-- Nobody is called, and no other controllers run. -/
structure Quiet (r r' : Run) : Prop where
  calls : r'.calls = r.calls
  names : r'.names = r.names
  hasLed : r'.phase.hasLed = true → r.phase.hasLed = true

theorem Quiet.refl (r : Run) : r.Quiet r := ⟨rfl, rfl, id⟩

theorem Quiet.trans {r'' : Run} (h : r.Quiet r') (h' : r'.Quiet r'') : r.Quiet r'' :=
  ⟨h'.calls.trans h.calls, h'.names.trans h.names, h.hasLed ∘ h'.hasLed⟩

theorem quiet_note (r : Run) (entry : Entry) (h : entry.call? = none) : r.Quiet (r.note entry) :=
  ⟨r.calls_note entry h, rfl, id⟩

theorem quiet_conclude (h : r.phase.hasLed = true) (outcome : Option Error) :
    r.Quiet (r.conclude outcome) :=
  ⟨rfl, rfl, fun _ => h⟩

theorem quiet_finish {led : Bool} (h : led = true → r.phase.hasLed = true)
    (outcome : Option Error) : r.Quiet (r.finish outcome led) := by
  rcases r.finish_cases outcome led with ⟨hled, -, world, activity, -, heq⟩ |
    ⟨world, log, heq, ⟨-, rfl⟩ | ⟨error, -, -, rfl⟩⟩
  · rw [heq]
    exact ⟨rfl, rfl, fun _ => h hled⟩
  · rw [heq]
    exact ⟨rfl, rfl, nofun⟩
  · rw [heq]
    exact ⟨r.calls_note (.stoppedWithError error) rfl, rfl, nofun⟩

theorem quiet_move (h : r.move? = some r') : r.Quiet r' := by
  unfold move? at h
  split at h
  · rename_i controllers name happening hmove
    have hnames := names_moveController hmove
    split at h
    · cases h
      exact ⟨calls_note _ _ rfl, hnames, id⟩
    · cases h
      exact ⟨rfl, hnames, id⟩
  · obtain ⟨servers, -, rfl⟩ := Option.map_eq_some_iff.1 h
    exact ⟨rfl, rfl, id⟩

theorem quiet_suffer (r : Run) (action : Action) : r.Quiet (r.suffer action) := by
  cases action with
  | shutdown => exact ⟨calls_note _ _ rfl, rfl, id⟩
  | dropSender | setUnavailable => exact ⟨rfl, rfl, id⟩
  | update change =>
    unfold suffer
    dsimp only
    split
    · exact ⟨rfl, rfl, id⟩
    · exact quiet_note _ _ rfl

theorem quiet_arrive (r : Run) (time : Nat) : r.Quiet (r.arrive time) := by
  have hsuffered := List.foldlRecOn (motive := fun r' : Run => r.Quiet r')
    (r.agenda.filter (·.1 ≤ time)) (fun r entry => r.suffer entry.2)
    (b := { r with
      time := time
      turn := .opening
      world := { r.world with time := time }
      agenda := r.agenda.filter (time < ·.1) }) ⟨rfl, rfl, id⟩
    fun r' h entry _ => h.trans (r'.quiet_suffer entry.2)
  exact hsuffered.trans ⟨rfl, rfl, id⟩

/-! ### Steps in which the controllers are called -/

/-- The elector has gained the lease, and all controllers are called. -/
def Musters (r r' : Run) : Prop :=
  ∃ activity world, r.phase = .electing activity ∧
    settle r.world activity = some (world, .inr .acquired) ∧
    r' = { ({ r with world := world }.note .leaseAcquired).lead with turn := .opening }

/-- A decision calls all controllers or nobody. -/
theorem Decides.musters_or_quiet (h : r.Decides r') :
    r.Musters { r' with turn := .opening } ∨ r.Quiet r' := by
  cases h with
  | abandon hphase hsignal => exact .inr ⟨calls_note _ _ rfl, rfl, nofun⟩
  | failEarly hphase hexit => exact .inr ⟨rfl, rfl, nofun⟩
  | elect hphase hsignal hexit helect =>
    obtain ⟨world, progress, hsettle, ⟨next, log, -, rfl, hlog⟩ | ⟨rfl, rfl⟩ | ⟨-, rfl⟩⟩ :=
      elect_cases helect
    · refine .inr ⟨?_, rfl, nofun⟩
      rcases hlog with rfl | ⟨verdict, rfl⟩
      · rfl
      · exact r.calls_note (.attemptFailed verdict) rfl
    · exact .inl ⟨_, world, hphase, hsettle, rfl⟩
    · exact .inr ⟨rfl, rfl, nofun⟩
  | stop hphase hsignal =>
    have hled : (r.note .shutdownRequested).phase.hasLed = true := by
      show r.phase.hasLed = true
      rw [hphase]
      rfl
    exact .inr ((r.quiet_note _ rfl).trans (quiet_conclude hled none))
  | lose hphase hlost => exact .inr (quiet_conclude (by rw [hphase]; rfl) _)
  | fail hphase hexit => exact .inr (quiet_conclude (by rw [hphase]; rfl) _)
  | @note t ending hphase hunnoted =>
    have hled : r.phase.hasLed = true := by rw [hphase]; rfl
    have hnames := names_noteEnd t.name r.controllers
    rcases r.noteEnding_cases t ending with ⟨error, -, heq⟩ | ⟨-, heq⟩
    · rw [heq]
      exact .inr ⟨rfl, hnames, fun _ => hled⟩
    · rw [heq]
      exact .inr ⟨calls_note _ _ rfl, hnames, id⟩
  | drained hphase hover => exact .inr ⟨rfl, rfl, fun _ => by rw [hphase]; rfl⟩
  | abort hphase hlate =>
    exact .inr ⟨calls_note _ _ rfl, names_abort r.controllers, fun _ => by rw [hphase]; rfl⟩
  | finish hphase hover =>
    refine .inr (quiet_finish (fun hled => ?_) _)
    rw [hphase, hled]
    rfl
  | @abortServers outcome led deadline hphase hlate =>
    let r₁ := Run.note { r with servers := r.servers.map ServerTask.abort }
      (.drainTimedOut "servers")
    have hled : led = true → r₁.phase.hasLed = true := by
      rintro rfl
      show r.phase.hasLed = true
      rw [hphase]
      rfl
    have hnoted : r.Quiet r₁ := ⟨calls_note _ _ rfl, rfl, id⟩
    exact .inr (hnoted.trans (quiet_finish hled outcome))
  | handBack hphase hback =>
    have hled : r.phase.hasLed = true := by rw [hphase]; rfl
    obtain ⟨world, progress, -, ⟨next, -, rfl⟩ | ⟨-, log, rfl, rfl | ⟨error, rfl⟩⟩⟩ :=
      handBack_cases hback
    · exact .inr ⟨rfl, rfl, fun _ => hled⟩
    · exact .inr ⟨rfl, rfl, nofun⟩
    · exact .inr ⟨r.calls_note (.releaseFailed error) rfl, rfl, nofun⟩

/-- **What happens to a run calls all controllers or nobody.** -/
theorem Happens.musters_or_quiet (h : r.Happens r') : r.Musters r' ∨ r.Quiet r' := by
  cases h with
  | serve | destine => exact .inr ⟨rfl, rfl, id⟩
  | behave i t state ht hruns hown => exact .inr ⟨rfl, names_set ht state, id⟩
  | tick limit htick =>
    cases advances_of_tick htick with
    | decide hturn hdecide =>
      rcases (decides_of_decide? hdecide).musters_or_quiet with hmusters | hquiet
      · exact .inl hmusters
      · exact .inr (hquiet.trans ⟨rfl, rfl, id⟩)
    | yield | rest => exact .inr ⟨rfl, rfl, id⟩
    | move hturn hmove => exact .inr (quiet_move hmove)
    | wait => exact .inr (r.quiet_arrive _)

/-- Who awaits the lease has done so before, and who has not led has not led before. -/
theorem Decides.unled (h : r.Decides r') :
    (r'.phase.awaits = true → r.phase.awaits = true) ∧
      (r'.phase.isUnled = true → r.phase.isUnled = true) := by
  have hawaits : r'.phase.awaits = true → r.phase.awaits = true := by
    intro hawaits
    cases hphase : r'.phase with
    | electing next =>
      obtain ⟨activity, hactivity, -⟩ := h.elect_of_electing hphase
      rw [hactivity]
      rfl
    | _ =>
      rw [hphase] at hawaits
      cases hawaits
  refine ⟨hawaits, ?_⟩
  cases h with
  | abandon hphase | failEarly hphase | elect hphase =>
    rw [hphase]
    exact fun _ => rfl
  | stop | lose | fail | drained | abort => exact nofun
  | @note t ending hphase hunnoted =>
    rcases r.noteEnding_cases t ending with ⟨error, -, heq⟩ | ⟨-, heq⟩
    · rw [heq]
      exact nofun
    · rw [heq]
      exact id
  | finish | abortServers =>
    exact phase_finish (motive := fun p => p.isUnled = true → _) _ _ _ (fun _ => nofun) nofun
  | handBack hphase hback =>
    obtain ⟨world, progress, -, ⟨next, -, rfl⟩ | ⟨-, log, rfl, -⟩⟩ := handBack_cases hback
    all_goals exact nofun

theorem Happens.unled (h : r.Happens r') :
    (r'.phase.awaits = true → r.phase.awaits = true) ∧
      (r'.phase.isUnled = true → r.phase.isUnled = true) := by
  cases h with
  | serve | behave | destine => exact ⟨id, id⟩
  | tick limit htick =>
    cases advances_of_tick htick with
    | decide hturn hdecide => exact (decides_of_decide? hdecide).unled
    | yield | rest => exact ⟨id, id⟩
    | move hturn hmove =>
      obtain ⟨controllers, servers, log, rfl, -⟩ := move?_cases hmove
      exact ⟨id, id⟩
    | @wait time =>
      obtain ⟨signal, server, log, heq⟩ := r.arrive_cases (max time r.time)
      rw [heq]
      exact ⟨id, id⟩

/-- Who has led has not come back to a phase without the leadership. -/
theorem Course.led (h : r.Course r') (hled : r.phase.isUnled = false) :
    r'.phase.isUnled = false := by
  induction h with
  | refl => exact hled
  | tail _ hhappens ih =>
    exact eq_false_of_ne_true fun hc => by rw [hhappens.unled.2 hc] at ih; cases ih

/-- Who has stopped to await the lease calls nobody any more. -/
theorem Course.quiet (h : r.Course r') (hawaits : r.phase.awaits = false) :
    r.Quiet r' ∧ r'.phase.awaits = false := by
  induction h with
  | refl => exact ⟨.refl r, hawaits⟩
  | @tail b c _ hhappens ih =>
    obtain ⟨hquiet, hb⟩ := ih
    rcases hhappens.musters_or_quiet with ⟨activity, world, hphase, -⟩ | hnobody
    · rw [hphase] at hb
      cases hb
    · exact ⟨hquiet.trans hnobody,
        eq_false_of_ne_true fun hc => by rw [hhappens.unled.1 hc] at hb; cases hb⟩

/-! ### The lease is gained first -/

/-- The controllers are called in the step in which the lease is gained. -/
theorem Musters.wins {election : LeaderElection} {phase : AcquirePhase} (h : r.Musters r')
    (hseeking : r.Seeking election phase) : Wins election r r' := by
  obtain ⟨activity, world, hphase, hsettle, rfl⟩ := h
  obtain ⟨w₁, call, hold, due, l, rfl, -, -, rfl, hclaims, hhandle⟩ :=
    (hseeking.seeks hphase hsettle).gains hseeking.claims
  obtain ⟨l', extra, haccepts, hput⟩ := LeaseStore.accepts_of_handle_ok
    (s := r.world.server.store) hclaims.ne_read (congrArg Prod.snd hhandle)
  have hstore : w₁.server.store = r.world.server.store.put l' extra :=
    congrArg Prod.fst (hhandle.symm.trans hput)
  have hholder : l'.holder? = some election.elector.identity := hclaims.holder haccepts
  exact ⟨⟨call, hold, due, l', hseeking.phase_eq, hclaims, haccepts⟩, _,
    congrArg LeaseStore.lease hstore, hholder⟩

theorem Musters.calls (h : r.Musters r') :
    r'.calls = r.calls ++ r.staff.map fun c => (c.1, r.context) := by
  obtain ⟨activity, world, -, -, rfl⟩ := h
  exact (calls_lead _).trans (congrArg (· ++ _) (calls_note _ _ rfl))

theorem Musters.names (h : r.Musters r') : r'.names = r.staff.map (·.1) := by
  obtain ⟨activity, world, -, -, rfl⟩ := h
  exact List.map_map

theorem Musters.phase (h : r.Musters r') : r'.phase = .leading := by
  obtain ⟨activity, world, -, -, rfl⟩ := h
  rfl

/-! ### Courses -/

/-- At `b` all controllers were just called: every plain server listens, and where there is an
election, the lease was gained in the step before. -/
structure Convenes (m : Manager) (s : Surroundings) (b : Run) : Prop where
  phase : b.phase = .leading
  calls : b.calls = m.roll
  names : b.names = m.controllers.names
  listens : m.Listens s.site
  wins : ∀ election, m.election = some election →
    ∃ a, (start m s).Course a ∧ a.Happens b ∧ a.calls = [] ∧ Wins election a b

theorem listens_of_serverTasks {site : Site} {servers : List ServerTask}
    (h : serverTasks m site = .ok servers) : m.Listens site := by
  have hplain : ∀ {site name address tasks site'},
      plainServer site name address = .ok (tasks, site') →
      (∀ a, address = some a → bindFailure? site name a = none) ∧
        site' = address.elim site site.occupy := by
    intro site name address tasks site' h
    unfold plainServer at h
    split at h
    · cases h
      exact ⟨nofun, rfl⟩
    · split at h
      · cases h
      · rename_i a hfree
        cases h
        exact ⟨fun b hb => Option.some.inj hb ▸ hfree, rfl⟩
  unfold serverTasks at h
  rcases hhealth : plainServer site .health m.healthProbeAddress with error | ⟨health, site₁⟩
  · rw [hhealth] at h
    cases h
  · rcases hmetrics : plainServer site₁ .metrics m.metricsAddress with error | ⟨metrics, site₂⟩
    · simp only [hhealth, bind, Except.bind, hmetrics] at h
      cases h
    · obtain ⟨hfree, rfl⟩ := hplain hhealth
      exact ⟨hfree, (hplain hmetrics).1⟩

/-- The staff of a run are the registered controllers. -/
theorem Course.registered (h : (start m s).Course r) :
    r.staff = m.controllers.entries ∧ r.context = m.context := by
  obtain ⟨hstaff, hcontext, -⟩ := h.keeps
  rw [hstaff, hcontext]
  obtain ⟨error, -, heq⟩ | ⟨servers, -, ⟨-, heq⟩ | ⟨-, ⟨election, -, heq⟩ | ⟨-, heq⟩⟩⟩ :=
    start_cases m s
  all_goals
    rw [heq]
    exact ⟨rfl, rfl⟩

/-- A manager that awaits the lease listens. -/
theorem Course.listens (h : (start m s).Course r) (hawaits : r.phase.awaits = true) :
    m.Listens s.site := by
  obtain ⟨error, -, heq⟩ | ⟨servers, hservers, -⟩ := start_cases m s
  · have hstart : (start m s).phase.awaits = false := by rw [heq]; rfl
    rw [(h.quiet hstart).2] at hawaits
    cases hawaits
  · exact listens_of_serverTasks hservers

theorem Musters.convenes (h : r.Musters r') (hhappens : r.Happens r')
    (hcourse : (start m s).Course r) (hcalls : r.calls = []) : Convenes m s r' := by
  obtain ⟨activity, world, hphase, -⟩ := id h
  obtain ⟨election, phase, helection, hseeking⟩ := hcourse.seeking hphase
  obtain ⟨hstaff, hcontext⟩ := hcourse.registered
  refine ⟨h.phase, ?_, ?_, hcourse.listens (by rw [hphase]; rfl), fun election' helection' => ?_⟩
  · rw [h.calls, hcalls, hstaff, hcontext]
    exact m.roll_eq.symm
  · rw [h.names, hstaff]
    rfl
  · obtain rfl : election = election' := Option.some.inj (helection.symm.trans helection')
    exact ⟨r, hcourse, hhappens, hcalls, h.wins hseeking⟩

/-- Nobody was called yet, or all controllers were called at some moment of the course. -/
theorem Course.convened (h : (start m s).Course r) :
    (r.calls = [] ∧ r.names = [] ∧ r.phase.hasLed = false) ∨
      ∃ b, (start m s).Course b ∧ b.Course r ∧ Convenes m s b := by
  induction h with
  | refl =>
    obtain ⟨error, -, heq⟩ | ⟨servers, hservers, ⟨-, heq⟩ | ⟨-, ⟨election, -, heq⟩ |
      ⟨helection, heq⟩⟩⟩ := start_cases m s
    · rw [heq]
      exact .inl ⟨rfl, rfl, rfl⟩
    · rw [heq]
      exact .inl ⟨rfl, rfl, rfl⟩
    · rw [heq]
      exact .inl ⟨rfl, rfl, rfl⟩
    · refine .inr ⟨_, .refl, .refl, ?_⟩
      rw [heq]
      refine ⟨rfl, (calls_lead _).trans m.roll_eq.symm, List.map_map,
        listens_of_serverTasks hservers, fun election h => ?_⟩
      rw [helection] at h
      cases h
  | @tail a c hcourse hhappens ih =>
    rcases ih with ⟨hcalls, hnames, hled⟩ | ⟨b, hb, hba, hconvenes⟩
    · rcases hhappens.musters_or_quiet with hmusters | hquiet
      · exact .inr ⟨c, hcourse.tail hhappens, .refl, hmusters.convenes hhappens hcourse hcalls⟩
      · exact .inl ⟨hquiet.calls.trans hcalls, hquiet.names.trans hnames,
          eq_false_of_ne_true fun hc => by rw [hquiet.hasLed hc] at hled; cases hled⟩
    · exact .inr ⟨b, hb, hba.tail hhappens, hconvenes⟩

/-- Nothing happens to a run that is over but what its surroundings do. -/
theorem Course.stays (h : r.Course r') (hover : r.isOver = true) :
    r'.phase = r.phase ∧ r'.calls = r.calls ∧ r'.world.sent = r.world.sent := by
  induction h with
  | refl => exact ⟨rfl, rfl, rfl⟩
  | @tail b c _ hhappens ih =>
    cases hhappens with
    | serve | behave | destine => exact ih
    | tick limit htick =>
      have hb : b.isOver = true := by
        rw [isOver, ih.1]
        exact hover
      rw [tick, if_pos hb] at htick
      cases htick

/-- **Who is called, in every course of a run.** Where the manager has led, all controllers were
called, each of them once and in order of registration, with the same context. They were called
when every plain server did listen, and where there is an election, in the step in which the server
accepted a write after which the elector is the holder of the lease. Where the manager has not led,
nobody was called, and nobody will be once it has given up the lease. Where a plain server cannot
listen, nothing was sent for the lease either. -/
theorem controllers_called_once (m : Manager) (s : Surroundings) (r : Run)
    (h : (start m s).Course r) :
    ((∃ b, (start m s).Course b ∧ b.Course r ∧ b.phase = .leading) →
        r.calls = m.controllers.names.map (·, m.context) ∧ m.controllers.names.Nodup ∧
        m.Listens s.site ∧
        ∀ election, m.election = some election →
          ∃ a b, (start m s).Course a ∧ a.Happens b ∧ b.Course r ∧ a.calls = [] ∧
            b.calls = r.calls ∧ Wins election a b) ∧
      ((¬ ∃ b, (start m s).Course b ∧ b.Course r ∧ b.phase = .leading) →
        r.calls = [] ∧ r.controllers = []) ∧
      (∀ b outcome deadline, (start m s).Course b → b.Course r →
        b.phase = .drainingServers outcome false deadline → r.calls = [] ∧ r.controllers = []) ∧
      ∀ error, serverTasks m s.site = .error error →
        r.phase = .over (some error) ∧ r.calls = [] ∧ r.world.sent = [] := by
  have hnobody : ∀ {r : Run}, r.calls = [] → r.names = [] → r.calls = [] ∧ r.controllers = [] :=
    fun hcalls hnames => ⟨hcalls, List.map_eq_nil_iff.1 hnames⟩
  refine ⟨?_, ?_, ?_, ?_⟩
  · rintro ⟨b, hb, hbr, hleading⟩
    rcases hb.convened with ⟨-, -, hled⟩ | ⟨c, hc, hcb, hconvenes⟩
    · rw [hleading] at hled
      cases hled
    · obtain ⟨hquiet, -⟩ := Course.quiet (hcb.trans hbr) (by rw [hconvenes.phase]; rfl)
      refine ⟨hquiet.calls.trans hconvenes.calls, m.controllers.nodup, hconvenes.listens,
        fun election helection => ?_⟩
      obtain ⟨a, ha, hac, hcalls, hwins⟩ := hconvenes.wins election helection
      exact ⟨a, c, ha, hac, hcb.trans hbr, hcalls, hquiet.calls.symm, hwins⟩
  · intro hunled
    rcases h.convened with ⟨hcalls, hnames, -⟩ | ⟨b, hb, hbr, hconvenes⟩
    · exact hnobody hcalls hnames
    · exact absurd ⟨b, hb, hbr, hconvenes.phase⟩ hunled
  · intro b outcome deadline hb hbr hphase
    rcases hb.convened with ⟨hcalls, hnames, -⟩ | ⟨c, hc, hcb, hconvenes⟩
    · obtain ⟨hquiet, -⟩ := hbr.quiet (by rw [hphase]; rfl)
      exact hnobody (hquiet.calls.trans hcalls) (hquiet.names.trans hnames)
    · have hled := Course.led hcb (by rw [hconvenes.phase]; rfl)
      rw [hphase] at hled
      cases hled
  · intro error herror
    obtain ⟨error', herror', heq⟩ | ⟨servers, hservers, -⟩ := start_cases m s
    · obtain rfl : error' = error := Except.error.inj (herror'.symm.trans herror)
      have hstays := h.stays (by rw [heq]; rfl)
      rw [heq] at hstays
      exact hstays
    · rw [herror] at hservers
      cases hservers

/-- Two controllers are called in order, once the lease is gained. -/
theorem pair_called_once : ∃ a b, (start pairManager (lateAnswer 0)).Course a ∧ a.Happens b ∧
    a.calls = [] ∧ b.calls = [("first", pairManager.context), ("second", pairManager.context)] ∧
    Wins ⟨soleElector, "https://base.example/"⟩ a b := by
  have hcourse := course_ticks (start pairManager (lateAnswer 0)) 0 2
  obtain ⟨hcalls, -, -, hwins⟩ := (controllers_called_once _ _ _ hcourse).1
    ⟨_, hcourse, .refl, rfl⟩
  obtain ⟨a, b, ha, hhappens, -, hnone, hall, hw⟩ := hwins _ rfl
  exact ⟨a, b, ha, hhappens, hnone, hall.trans hcalls, hw⟩

end Run

end ControllerManager.Manager
