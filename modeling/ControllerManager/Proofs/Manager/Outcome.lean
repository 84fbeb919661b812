import ControllerManager.Proofs.Manager.Calls
import Mathlib.Data.List.Nodup

/-!
# The outcome of a run

A run is decided by the first event that ends it: the request to stop, the loss of the leadership,
the end of a server, or the failure of a controller. As long as such an event is left undecided the
clock stands still, and nothing that happens after the decision changes the outcome.

## Main definitions

* `Manager.Run.Ends` — an event that ends a run is there, with the outcome that it means.
* `Manager.Phase.isOpen`, `Manager.Phase.outcome?` — whether a run is decided, and how.

## Main results

* `Manager.Run.Course.decided` — a decided run was decided by an event.
* `Manager.Run.Course.stands` — the clock stands still until the decision.
* `Manager.Run.Ends.of_awaiting` — the events that end a run which awaits the lease.
* `Manager.Run.Happens.crashed_cases` — how a run dies.
-/

namespace ControllerManager.Manager

open Cluster Election Simulation

/-- A phase in which nothing is decided yet. -/
def Phase.isOpen : Phase → Bool
  | .electing _ | .leading => true
  | _ => false

/-- The outcome to which a phase leads, once it is decided. -/
def Phase.outcome? : Phase → Option (Option Error)
  | .drainingControllers outcome _ | .drainingServers outcome _ _ | .over outcome => some outcome
  | .releasing _ => some none
  | .electing _ | .leading | .crashed => none

theorem Phase.outcome?_of_isOpen {p : Phase} (h : p.isOpen = true) : p.outcome? = none := by
  cases p <;> first | rfl | cases h

namespace Run

variable {m : Manager} {s : Surroundings} {r r' : Run} {o : Option Error}

/-- An event that ends the run is there, with the outcome that it means. -/
inductive Ends (r : Run) : Option Error → Prop
  /-- The request to stop was sent, or its sender is gone. -/
  | shutdown (h : r.signal.resolved = true) : Ends r none
  | loss (h : r.leadershipLost = true) : Ends r (some (.runtime "leader election lost"))
  | server {t : ServerTask} {error : Error} (ht : t ∈ r.servers)
      (hstate : t.state = .ended (some error)) : Ends r (some error)
  | exit {t : ServerTask} (ht : t ∈ r.servers) (hstate : t.state = .ended none) :
      Ends r (some (.runtime (t.name.word ++ " server stopped unexpectedly")))
  | failure {t : ControllerTask} {error : Error} {noted : Bool} (ht : t ∈ r.controllers)
      (hstate : t.state = .ended (.failed error) noted) :
      Ends r (some (.runtime ("controller " ++ t.name ++ ": " ++ error.message)))
  | panic {t : ControllerTask} {message : String} {noted : Bool} (ht : t ∈ r.controllers)
      (hstate : t.state = .ended (.crashed message) noted) :
      Ends r (some (.runtime
        ("controller task failed: task N panicked with message " ++ Text.quoted message)))

/-! ### What ends a run -/

theorem ends_of_serverExit? {error : Error} (h : r.serverExit? = some error) :
    r.Ends (some error) := by
  obtain ⟨t, ht, hexit⟩ := List.exists_of_findSome?_eq_some h
  unfold ServerTask.exitError? at hexit
  split at hexit
  · rename_i failure hstate
    cases hexit
    exact .server ht hstate
  · rename_i hstate
    cases hexit
    exact .exit ht hstate
  · cases hexit
  · cases hexit

theorem serverExit?_ne_none {t : ServerTask} {failure : Option Error} (ht : t ∈ r.servers)
    (hstate : t.state = .ended failure) : r.serverExit? ≠ none := by
  intro hnone
  have hexit := List.findSome?_eq_none_iff.1 hnone t ht
  unfold ServerTask.exitError? at hexit
  rw [hstate] at hexit
  cases failure <;> cases hexit

/-- The controller whose end the manager takes note of next. -/
theorem unnoted?_cases {t : ControllerTask} {ending : Ending} (h : r.unnoted? = some (t, ending)) :
    t ∈ r.controllers ∧ t.state = .ended ending false := by
  obtain ⟨t', ht', hsome⟩ := List.exists_of_findSome?_eq_some h
  split at hsome
  · rename_i ending' hstate
    cases hsome
    exact ⟨ht', hstate⟩
  · cases hsome

theorem unnoted?_ne_none {t : ControllerTask} {ending : Ending} (ht : t ∈ r.controllers)
    (hstate : t.state = .ended ending false) : r.unnoted? ≠ none := by
  intro hnone
  have hsome := List.findSome?_eq_none_iff.1 hnone t ht
  rw [hstate] at hsome
  cases hsome

theorem ends_of_failure? {t : ControllerTask} {ending : Ending} {error : Error}
    (ht : t ∈ r.controllers) (hstate : t.state = .ended ending false)
    (h : ControllerTask.failure? t.name ending = some error) : r.Ends (some error) := by
  cases ending with
  | finished => cases h
  | failed failure =>
    cases h
    exact .failure ht hstate
  | crashed message =>
    cases h
    exact .panic ht hstate

/-- A decision of an undecided run: an event ends it, the acquisition of the lease goes on, or the
manager takes note of a controller that has ended well. -/
theorem Decides.cases_of_open (h : r.Decides r') (hopen : r.phase.isOpen = true) :
    (∃ o, r.Ends o ∧ r'.phase.outcome? = some o ∧ r'.stopped = r.stopped.or (some r.time)) ∨
      (∃ activity, r.phase = .electing activity ∧ r.signal.resolved = false ∧
        r.serverExit? = none ∧ r.elect activity = some r') ∨
      ∃ t, r.phase = .leading ∧ t ∈ r.controllers ∧ t.state = .ended .finished false ∧
        r' = { r with controllers := noteEnd t.name r.controllers }.note
          (.controllerFinished t.name) := by
  cases h with
  | abandon hphase hsignal => exact .inl ⟨none, .shutdown hsignal, rfl, rfl⟩
  | failEarly hphase hexit => exact .inl ⟨_, ends_of_serverExit? hexit, rfl, rfl⟩
  | elect hphase hsignal hexit helect => exact .inr (.inl ⟨_, hphase, hsignal, hexit, helect⟩)
  | stop hphase hsignal => exact .inl ⟨none, .shutdown hsignal, rfl, rfl⟩
  | lose hphase hlost => exact .inl ⟨_, .loss hlost, rfl, rfl⟩
  | fail hphase hexit => exact .inl ⟨_, ends_of_serverExit? hexit, rfl, rfl⟩
  | @note t ending hphase hunnoted =>
    obtain ⟨ht, hstate⟩ := unnoted?_cases hunnoted
    rcases r.noteEnding_cases t ending with ⟨error, herror, heq⟩ | ⟨rfl, heq⟩
    · rw [heq]
      exact .inl ⟨_, ends_of_failure? ht hstate herror, rfl, rfl⟩
    · exact .inr (.inr ⟨t, hphase, ht, hstate, heq⟩)
  | drained hphase | abort hphase | finish hphase | abortServers hphase | handBack hphase =>
    rw [hphase] at hopen
    cases hopen

/-- Nothing but the request to stop and the end of a server ends a run that awaits the lease. -/
theorem Ends.of_awaiting (h : r.Ends o) {election : LeaderElection} {phase : AcquirePhase}
    (hseeking : r.Seeking election phase) :
    (o = none ∧ r.signal.resolved = true) ∨
      ∃ t ∈ r.servers, ∃ error, t.exitError? = some error ∧ o = some error := by
  have hnobody : ∀ t, t ∉ r.controllers := by simp [hseeking.controllers]
  cases h with
  | shutdown hsignal => exact .inl ⟨rfl, hsignal⟩
  | loss hlost =>
    rw [leadershipLost, hseeking.candidate?] at hlost
    cases hlost
  | @server t error ht hstate =>
    exact .inr ⟨t, ht, error, by rw [ServerTask.exitError?, hstate], rfl⟩
  | @exit t ht hstate => exact .inr ⟨t, ht, _, by rw [ServerTask.exitError?, hstate], rfl⟩
  | failure ht => exact absurd ht (hnobody _)
  | panic ht => exact absurd ht (hnobody _)

/-! ### Undecided runs -/

theorem Decides.isOpen (h : r.Decides r') (hopen : r'.phase.isOpen = true) :
    r.phase.isOpen = true := by
  cases h with
  | abandon hphase | failEarly hphase | elect hphase | stop hphase | lose hphase | fail hphase
  | note hphase =>
    rw [hphase]
    rfl
  | drained | abort => cases hopen
  | finish | abortServers =>
    exact phase_finish (motive := fun p => p.isOpen = true → _) _ _ _ (fun _ => nofun) nofun hopen
  | handBack hphase hback =>
    obtain ⟨world, progress, -, ⟨next, -, rfl⟩ | ⟨-, log, rfl, -⟩⟩ := handBack_cases hback
    all_goals cases hopen

/-- An undecided run has been undecided before. -/
theorem Happens.isOpen (h : r.Happens r') (hopen : r'.phase.isOpen = true) :
    r.phase.isOpen = true := by
  cases h with
  | serve | behave | destine => exact hopen
  | tick limit htick =>
    cases advances_of_tick htick with
    | decide hturn hdecide => exact (decides_of_decide? hdecide).isOpen hopen
    | yield | rest => exact hopen
    | move hturn hmove =>
      obtain ⟨controllers, servers, log, rfl, -⟩ := move?_cases hmove
      exact hopen
    | @wait time =>
      obtain ⟨signal, server, log, heq⟩ := r.arrive_cases (max time r.time)
      rw [heq] at hopen
      exact hopen

/-- Until a run is decided, nobody was asked to stop, and no failure of a controller was passed
over. -/
structure Attends (r : Run) : Prop where
  stopped : r.stopped = none
  noted : ∀ t ∈ r.controllers, ∀ ending, t.state = .ended ending true → ending = .finished

theorem Attends.set (h : r.Attends) {i : Nat} {t : ControllerTask} {state : ControllerState}
    (hown : state.Own) (hstopped : r'.stopped = r.stopped)
    (hcontrollers : r'.controllers = r.controllers.set i { t with state := state }) :
    r'.Attends := by
  refine ⟨hstopped.trans h.stopped, fun t' ht' ending hstate => ?_⟩
  rw [hcontrollers] at ht'
  rcases List.mem_or_eq_of_mem_set ht' with hold | rfl
  · exact h.noted t' hold ending hstate
  · rw [show state = .ended ending true from hstate] at hown
    exact hown.elim

/-- The controllers have different names, as they were registered. -/
theorem Course.names_nodup (h : (start m s).Course r) : r.names.Nodup := by
  rcases h.convened with ⟨-, hnames, -⟩ | ⟨b, -, hbr, hconvenes⟩
  · rw [hnames]
    exact List.nodup_nil
  · obtain ⟨hquiet, -⟩ := hbr.quiet (by rw [hconvenes.phase]; rfl)
    rw [hquiet.names, hconvenes.names]
    exact m.controllers.nodup

theorem mem_noteEnd {name : String} {tasks : List ControllerTask} {t : ControllerTask}
    (ht : t ∈ noteEnd name tasks) :
    t ∈ tasks ∨ ∃ t' ∈ tasks, ∃ ending noted, t'.name = name ∧
      t'.state = .ended ending noted ∧ t.state = .ended ending true := by
  obtain ⟨t', ht', rfl⟩ := List.mem_map.1 ht
  cases hstate : t'.state with
  | ended ending noted =>
    by_cases hname : t'.name = name
    · exact .inr ⟨t', ht', ending, noted, hname, hstate, by simp [hname]⟩
    · exact .inl (by simpa [hname, hstate] using ht')
  | _ => exact .inl (by simpa [hstate] using ht')

/-- What the manager takes note of is the end of the one controller that it means. -/
theorem Attends.noteEnd (h : r.Attends) (hnodup : r.names.Nodup) {t : ControllerTask}
    (ht : t ∈ r.controllers) (hstate : t.state = .ended .finished false)
    (hstopped : r'.stopped = r.stopped)
    (hcontrollers : r'.controllers = Run.noteEnd t.name r.controllers) : r'.Attends := by
  refine ⟨hstopped.trans h.stopped, fun t' ht' ending hstate' => ?_⟩
  rw [hcontrollers] at ht'
  rcases mem_noteEnd ht' with hold | ⟨t'', ht'', ending', noted, hname, hended, hmarked⟩
  · exact h.noted t' hold ending hstate'
  · obtain rfl : t'' = t := List.inj_on_of_nodup_map hnodup ht'' ht hname
    rw [hmarked] at hstate'
    rw [hstate] at hended
    cases hstate'
    cases hended
    rfl

theorem Attends.decide (h : r.Attends) (hnodup : r.names.Nodup) (hdecides : r.Decides r')
    (hopen : r'.phase.isOpen = true) : r'.Attends := by
  rcases hdecides.cases_of_open (hdecides.isOpen hopen) with
    ⟨o, -, houtcome, -⟩ | ⟨activity, hphase, -, -, helect⟩ | ⟨t, -, ht, hstate, rfl⟩
  · exact nomatch houtcome.symm.trans (Phase.outcome?_of_isOpen hopen)
  · obtain ⟨world, progress, -, ⟨next, log, -, rfl, -⟩ | ⟨-, rfl⟩ | ⟨-, rfl⟩⟩ := elect_cases helect
    · exact ⟨h.stopped, h.noted⟩
    · refine ⟨h.stopped, fun t ht ending hstate => ?_⟩
      obtain ⟨c, -, rfl⟩ := List.mem_map.1 ht
      cases hstate
    · cases hopen
  · exact h.noteEnd hnodup ht hstate rfl rfl

theorem attends_start (m : Manager) (s : Surroundings) : (start m s).Attends := by
  obtain ⟨error, -, heq⟩ | ⟨servers, -, ⟨-, heq⟩ | ⟨-, ⟨election, -, heq⟩ | ⟨-, heq⟩⟩⟩ :=
    start_cases m s
  case inr.inr.inr =>
    rw [heq]
    refine ⟨rfl, fun t ht ending hstate => ?_⟩
    obtain ⟨c, -, rfl⟩ := List.mem_map.1 ht
    cases hstate
  all_goals
    rw [heq]
    exact ⟨rfl, nofun⟩

/-- An undecided run attends to its controllers. -/
theorem Course.attends (h : (start m s).Course r) (hopen : r.phase.isOpen = true) :
    r.Attends := by
  induction h with
  | refl => exact attends_start m s
  | @tail b c hcourse hhappens ih =>
    have hb := ih (hhappens.isOpen hopen)
    cases hhappens with
    | serve | destine => exact ⟨hb.stopped, hb.noted⟩
    | behave i t state ht hruns hown => exact hb.set hown rfl rfl
    | tick limit htick =>
      cases advances_of_tick htick with
      | decide hturn hdecide =>
        have hdecided := hb.decide (Course.names_nodup hcourse) (decides_of_decide? hdecide) hopen
        exact ⟨hdecided.stopped, hdecided.noted⟩
      | yield | rest => exact ⟨hb.stopped, hb.noted⟩
      | move hturn hmove =>
        rcases move_cases hmove with ⟨i, t, state, log, ht, hruns, hown, -, rfl⟩ |
          ⟨i, t, failure, ht, hruns, rfl⟩
        · exact hb.set hown rfl rfl
        · exact ⟨hb.stopped, hb.noted⟩
      | @wait time =>
        obtain ⟨signal, server, log, heq⟩ := b.arrive_cases (max time b.time)
        rw [heq]
        exact ⟨hb.stopped, hb.noted⟩

/-! ### The clock stands still -/

/-- Whatever has ended in `r` has ended in `r'` in the same way. -/
structure Upholds (r r' : Run) : Prop where
  signal : r'.signal = r.signal
  world : r'.world.candidate? 0 = r.world.candidate? 0
  servers : ∀ t ∈ r.servers, t.isOver = true → t ∈ r'.servers
  controllers : ∀ t ∈ r.controllers, ∀ ending noted, t.state = .ended ending noted →
    ∃ noted', { t with state := .ended ending noted' } ∈ r'.controllers

/-- An event that ends a run stays there. -/
theorem Ends.upheld (h : r.Ends o) (hupholds : r.Upholds r') : r'.Ends o := by
  cases h with
  | shutdown hsignal => exact .shutdown (hupholds.signal ▸ hsignal)
  | loss hlost =>
    refine .loss ?_
    rw [leadershipLost, hupholds.world]
    exact hlost
  | server ht hstate =>
    exact .server (hupholds.servers _ ht (by rw [ServerTask.isOver, hstate])) hstate
  | exit ht hstate => exact .exit (hupholds.servers _ ht (by rw [ServerTask.isOver, hstate])) hstate
  | @failure t error noted ht hstate =>
    obtain ⟨noted', ht'⟩ := hupholds.controllers t ht _ noted hstate
    exact .failure (t := { t with state := .ended (.failed error) noted' }) ht' rfl
  | @panic t message noted ht hstate =>
    obtain ⟨noted', ht'⟩ := hupholds.controllers t ht _ noted hstate
    exact .panic (t := { t with state := .ended (.crashed message) noted' }) ht' rfl

theorem controllers_kept (r : Run) : ∀ t ∈ r.controllers, ∀ ending noted,
    t.state = .ended ending noted →
      ∃ noted', { t with state := .ended ending noted' } ∈ r.controllers :=
  fun t ht _ noted hstate => ⟨noted, by rw [← hstate]; exact ht⟩

/-- Who is not set to another state is still there. -/
theorem mem_set_of_ne {α : Type} {l : List α} {i : Nat} {a b c : α} (ha : a ∈ l)
    (hb : l[i]? = some b) (hne : a ≠ b) : a ∈ l.set i c := by
  obtain ⟨j, hj⟩ := List.mem_iff_getElem?.1 ha
  refine List.mem_iff_getElem?.2 ⟨j, ?_⟩
  have hij : i ≠ j := by
    rintro rfl
    exact hne (Option.some.inj (hj.symm.trans hb))
  rw [List.getElem?_set_ne hij, hj]

/-- A task that is over is not the one that moves. -/
theorem ne_of_isOver {t t' : ControllerTask} (ht : t'.isOver = false) {ending : Ending}
    {noted : Bool} (hstate : t.state = .ended ending noted) : t ≠ t' := by
  rintro rfl
  rw [ControllerTask.isOver, hstate] at ht
  cases ht

theorem upholds_setController {i : Nat} {t : ControllerTask} (ht : r.controllers[i]? = some t)
    (hruns : t.isOver = false) (state : ControllerState) (log : List (Nat × Entry)) :
    r.Upholds { r with controllers := r.controllers.set i { t with state := state }, log := log } :=
  ⟨rfl, rfl, fun _ ht' _ => ht', fun t' ht' _ noted hstate =>
    ⟨noted, by rw [← hstate]; exact mem_set_of_ne ht' ht (ne_of_isOver hruns hstate)⟩⟩

theorem upholds_setServer {i : Nat} {t t' : ServerTask} (ht : r.servers[i]? = some t)
    (hruns : t.isOver = false) : r.Upholds { r with servers := r.servers.set i t' } := by
  refine ⟨rfl, rfl, fun t'' ht'' hover => mem_set_of_ne ht'' ht ?_, r.controllers_kept⟩
  rintro rfl
  rw [hruns] at hover
  cases hover

theorem upholds_noteEnd (name : String) (entry : Entry) :
    r.Upholds (Run.note { r with controllers := noteEnd name r.controllers } entry) := by
  refine ⟨rfl, rfl, fun _ ht _ => ht, fun t ht ending noted hstate => ?_⟩
  by_cases hname : t.name = name
  · exact ⟨true, List.mem_map.2 ⟨t, ht, by rw [hstate]; simp [hname]⟩⟩
  · exact ⟨noted, List.mem_map.2 ⟨t, ht, by rw [hstate]; simp [hname, ← hstate]⟩⟩

/-- While an event that ends the run is there, the manager has something to decide. -/
theorem Ends.decide?_ne_none (h : r.Ends o) (hopen : r.phase.isOpen = true) (hattends : r.Attends)
    (hseeking : ∀ activity, r.phase = .electing activity →
      ∃ election phase, r.Seeking election phase) : r.decide? ≠ none := by
  unfold decide?
  cases hphase : r.phase with
  | electing activity =>
    obtain ⟨election, phase, hseek⟩ := hseeking activity hphase
    rcases h.of_awaiting hseek with ⟨-, hsignal⟩ | ⟨t, ht, error, hexit, -⟩
    · simp [hsignal]
    · have hserver : r.serverExit? ≠ none := fun hnone => by
        rw [List.findSome?_eq_none_iff.1 hnone t ht] at hexit
        cases hexit
      obtain ⟨error', herror'⟩ := Option.ne_none_iff_exists'.1 hserver
      simp only [herror']
      split_ifs <;> exact nofun
  | leading =>
    dsimp only
    split_ifs with hsignal hlost
    · exact nofun
    · exact nofun
    · have hserver : (∃ t ∈ r.servers, ∃ failure, t.state = .ended failure) →
          r.serverExit? ≠ none := fun ⟨_, ht, _, hstate⟩ => serverExit?_ne_none ht hstate
      have hunnoted : (∃ t ∈ r.controllers, ∃ ending noted, t.state = .ended ending noted ∧
          ending ≠ .finished) → r.unnoted? ≠ none := by
        rintro ⟨t, ht, ending, noted, hstate, hbad⟩
        cases noted with
        | false => exact unnoted?_ne_none ht hstate
        | true => exact absurd (hattends.noted t ht ending hstate) hbad
      have heither : r.serverExit? ≠ none ∨ r.unnoted? ≠ none := by
        cases h with
        | shutdown h => exact absurd h hsignal
        | loss h => exact absurd h hlost
        | server ht hstate => exact .inl (hserver ⟨_, ht, _, hstate⟩)
        | exit ht hstate => exact .inl (hserver ⟨_, ht, _, hstate⟩)
        | failure ht hstate => exact .inr (hunnoted ⟨_, ht, _, _, hstate, nofun⟩)
        | panic ht hstate => exact .inr (hunnoted ⟨_, ht, _, _, hstate, nofun⟩)
      split
      · exact nofun
      · rename_i hnone
        rcases heither with hne | hne
        · exact absurd hnone hne
        · simpa using hne
  | _ =>
    rw [hphase] at hopen
    cases hopen

/-- While an event that ends a run is there, the run is decided, or the event stays and the clock
stands still. -/
theorem Ends.happens (h : r.Ends o) (hopen : r.phase.isOpen = true) (hattends : r.Attends)
    (hseeking : ∀ activity, r.phase = .electing activity →
      ∃ election phase, r.Seeking election phase) (hhappens : r.Happens r') :
    r'.time = r.time ∧ (r'.phase.isOpen = true ∧ r'.Ends o ∨ r'.phase.outcome? ≠ none) := by
  cases hhappens with
  | serve server =>
    exact ⟨rfl, .inl ⟨hopen, h.upheld ⟨rfl, rfl, fun _ ht _ => ht, r.controllers_kept⟩⟩⟩
  | behave i t state ht hruns hown =>
    exact ⟨rfl, .inl ⟨hopen, h.upheld (upholds_setController ht hruns state r.log)⟩⟩
  | destine i t exit lingering ht hruns =>
    exact ⟨rfl, .inl ⟨hopen, h.upheld (upholds_setServer ht hruns)⟩⟩
  | tick limit htick =>
    cases advances_of_tick htick with
    | @decide decided hturn hdecide =>
      have hdecides := decides_of_decide? hdecide
      refine ⟨hdecides.stays.time, ?_⟩
      rcases hdecides.cases_of_open hopen with ⟨o', -, houtcome, -⟩ |
        ⟨activity, hphase, hsignal, hexit, -⟩ | ⟨t, hphase, -, -, rfl⟩
      · exact .inr fun hnone => nomatch houtcome.symm.trans hnone
      · obtain ⟨election, phase, hseek⟩ := hseeking activity hphase
        rcases h.of_awaiting hseek with ⟨-, hresolved⟩ | ⟨t, ht, error, herror, -⟩
        · rw [hsignal] at hresolved
          cases hresolved
        · rw [List.findSome?_eq_none_iff.1 hexit t ht] at herror
          cases herror
      · have hnoted := h.upheld (r.upholds_noteEnd t.name (.controllerFinished t.name))
        refine .inl ⟨hopen, hnoted.upheld ⟨rfl, rfl, fun _ ht _ => ht, controllers_kept _⟩⟩
    | yield | rest =>
      exact ⟨rfl, .inl ⟨hopen, h.upheld ⟨rfl, rfl, fun _ ht _ => ht, r.controllers_kept⟩⟩⟩
    | move hturn hmove =>
      rcases move_cases hmove with ⟨i, t, state, log, ht, hruns, -, -, rfl⟩ |
        ⟨i, t, failure, ht, hruns, rfl⟩
      · exact ⟨rfl, .inl ⟨hopen, h.upheld (upholds_setController ht hruns state log)⟩⟩
      · exact ⟨rfl, .inl ⟨hopen, h.upheld (upholds_setServer ht hruns)⟩⟩
    | wait hturn hdecide => exact absurd hdecide (h.decide?_ne_none hopen hattends hseeking)

/-- **The clock stands still until the decision**, once an event that ends the run is there. -/
theorem Course.stands (hb : (start m s).Course r) (h : r.Course r') (hopen : r'.phase.isOpen = true)
    (hends : r.Ends o) : r'.time = r.time ∧ r'.Ends o := by
  induction h with
  | refl => exact ⟨rfl, hends⟩
  | @tail b c hrb hhappens ih =>
    have hbopen := hhappens.isOpen hopen
    obtain ⟨htime, hstill⟩ := ih hbopen
    have hcourse : (start m s).Course b := hb.trans hrb
    obtain ⟨htime', ⟨-, hends'⟩ | houtcome⟩ := hstill.happens hbopen (hcourse.attends hbopen)
      (fun activity hphase => (hcourse.seeking hphase).imp fun _ => .imp fun _ => And.right)
      hhappens
    · exact ⟨htime'.trans htime, hends'⟩
    · exact absurd (Phase.outcome?_of_isOpen hopen) houtcome

/-! ### Decided runs -/

theorem outcome_finish (r : Run) (outcome : Option Error) (led : Bool) :
    (r.finish outcome led).phase.outcome? = some outcome ∧
      (r.finish outcome led).stopped = r.stopped := by
  rcases r.finish_cases outcome led with ⟨-, rfl, world, activity, -, heq⟩ | ⟨world, log, heq, -⟩
  all_goals
    rw [heq]
    exact ⟨rfl, rfl⟩

/-- A decision that was made stays. -/
theorem Decides.outcome (h : r.Decides r') (ho : r.phase.outcome? = some o) :
    r'.phase.outcome? = some o ∧ r'.stopped = r.stopped := by
  cases h with
  | abandon hphase | failEarly hphase | elect hphase | stop hphase | lose hphase | fail hphase
  | note hphase =>
    rw [hphase] at ho
    cases ho
  | drained hphase | abort hphase =>
    rw [hphase] at ho
    exact ⟨ho, rfl⟩
  | finish hphase =>
    rw [hphase] at ho
    cases ho
    exact r.outcome_finish _ _
  | abortServers hphase =>
    rw [hphase] at ho
    cases ho
    exact outcome_finish _ _ _
  | handBack hphase hback =>
    rw [hphase] at ho
    obtain ⟨world, progress, -, ⟨next, -, rfl⟩ | ⟨-, log, rfl, -⟩⟩ := handBack_cases hback
    all_goals exact ⟨ho, rfl⟩

/-- **Nothing that happens after the decision changes the outcome.** -/
theorem Happens.outcome (h : r.Happens r') (ho : r.phase.outcome? = some o) :
    r'.phase.outcome? = some o ∧ r'.stopped = r.stopped := by
  cases h with
  | serve | behave | destine => exact ⟨ho, rfl⟩
  | tick limit htick =>
    cases advances_of_tick htick with
    | decide hturn hdecide => exact (decides_of_decide? hdecide).outcome ho
    | yield | rest => exact ⟨ho, rfl⟩
    | move hturn hmove =>
      obtain ⟨controllers, servers, log, rfl, -⟩ := move?_cases hmove
      exact ⟨ho, rfl⟩
    | @wait time =>
      obtain ⟨signal, server, log, heq⟩ := r.arrive_cases (max time r.time)
      rw [heq]
      exact ⟨ho, rfl⟩

theorem Course.outcome (h : r.Course r') (ho : r.phase.outcome? = some o) :
    r'.phase.outcome? = some o := by
  induction h with
  | refl => exact ho
  | tail _ hhappens ih => exact (hhappens.outcome ih).1

/-- A run that becomes decided is decided by an event that is there. -/
theorem Happens.decides (h : r.Happens r') (hopen : r.phase.isOpen = true)
    (ho : r'.phase.outcome? = some o) :
    r.Ends o ∧ r'.stopped = r.stopped.or (some r.time) := by
  have hnone := Phase.outcome?_of_isOpen hopen
  cases h with
  | serve | behave | destine => exact nomatch hnone.symm.trans ho
  | tick limit htick =>
    cases advances_of_tick htick with
    | decide hturn hdecide =>
      rcases (decides_of_decide? hdecide).cases_of_open hopen with ⟨o', hends, houtcome, hstopped⟩ |
        ⟨activity, hphase, -, -, helect⟩ | ⟨t, hphase, -, -, rfl⟩
      · obtain rfl : o' = o := Option.some.inj (houtcome.symm.trans ho)
        exact ⟨hends, hstopped⟩
      · obtain ⟨world, progress, -, ⟨next, log, -, rfl, -⟩ | ⟨-, rfl⟩ | ⟨-, rfl⟩⟩ :=
          elect_cases helect
        all_goals cases ho
      · exact nomatch hnone.symm.trans ho
    | yield | rest => exact nomatch hnone.symm.trans ho
    | move hturn hmove =>
      obtain ⟨controllers, servers, log, rfl, -⟩ := move?_cases hmove
      exact nomatch hnone.symm.trans ho
    | @wait time =>
      obtain ⟨signal, server, log, heq⟩ := r.arrive_cases (max time r.time)
      rw [heq] at ho
      exact nomatch hnone.symm.trans ho

theorem phase_cases (p : Phase) : p.isOpen = true ∨ (∃ o, p.outcome? = some o) ∨ p = .crashed := by
  cases p with
  | electing | leading => exact .inl rfl
  | drainingControllers outcome | drainingServers outcome | «over» outcome =>
    exact .inr (.inl ⟨outcome, rfl⟩)
  | releasing => exact .inr (.inl ⟨none, rfl⟩)
  | crashed => exact .inr (.inr rfl)

/-- **A decided run was decided by an event** that was there at that time. -/
theorem Course.decided (hr : (start m s).Course r) (hopen : r.phase.isOpen = true)
    (h : r.Course r') (ho : r'.phase.outcome? = some o) :
    ∃ d, r.Course d ∧ d.Course r' ∧ d.phase.isOpen = true ∧ d.Ends o ∧
      r'.stopped = some d.time := by
  induction h with
  | refl => exact nomatch (Phase.outcome?_of_isOpen hopen).symm.trans ho
  | @tail b c hrb hhappens ih =>
    rcases phase_cases b.phase with hb | ⟨o', ho'⟩ | hcrashed
    · obtain ⟨hends, hstopped⟩ := hhappens.decides hb ho
      have hcourse : (start m s).Course b := hr.trans hrb
      refine ⟨b, hrb, .single hhappens, hb, hends, ?_⟩
      rw [hstopped, (hcourse.attends hb).stopped]
      rfl
    · obtain ⟨houtcome, hstopped⟩ := hhappens.outcome ho'
      obtain rfl : o' = o := Option.some.inj (houtcome.symm.trans ho)
      obtain ⟨d, hd, hdb, hdopen, hends, htime⟩ := ih ho'
      exact ⟨d, hd, hdb.tail hhappens, hdopen, hends, hstopped.trans htime⟩
    · have hstays := (Course.stays (.single hhappens) (by rw [isOver, hcrashed])).1
      rw [hstays, hcrashed] at ho
      cases ho

/-- A run whose servers listen is undecided at first, unless its webhooks cannot be served
together. -/
theorem start_isOpen {servers : List ServerTask} (hlisten : serverTasks m s.site = .ok servers) :
    (Webhook.Service.build? m.webhooks).isSome = true ∧ (start m s).phase.isOpen = true ∨
      Webhook.Service.build? m.webhooks = none ∧ (start m s).phase = .crashed := by
  obtain ⟨error, herror, -⟩ | ⟨servers, -, ⟨hbuild, heq⟩ | ⟨hbuild, ⟨election, -, heq⟩ |
    ⟨-, heq⟩⟩⟩ := start_cases m s
  · rw [hlisten] at herror
    cases herror
  · exact .inr ⟨hbuild, by rw [heq]; rfl⟩
  · exact .inl ⟨hbuild, by rw [heq]; rfl⟩
  · exact .inl ⟨hbuild, by rw [heq]; rfl⟩

/-! ### Runs that die -/

/-- The attempt of an elector to acquire the lease has asked for it, and the server holds a lease
over which the elector crashes. -/
def Doomed (m : Manager) (r : Run) : Prop :=
  ∃ election now due l, m.election = some election ∧
    r.phase = .electing (.acquiring 0 none (.attempting (.reading now) due)) ∧
    r.world.server.store.lease = some l ∧ election.elector.CrashesOver now l

/-- An acquisition dies over the lease that the server holds. -/
theorem Seeking.doomed {election : LeaderElection} {phase : AcquirePhase}
    (h : r.Seeking election phase) (helection : m.election = some election) {activity : Activity}
    (hactivity : r.phase = .electing activity) {world : World} {outcome : Outcome}
    (hsettle : settle r.world activity = some (world, .inr outcome)) (hlost : outcome ≠ .acquired) :
    r.Doomed m := by
  cases h.seeks hactivity hsettle with
  | gain => exact absurd rfl hlost
  | @die a due w' answer crash hhears hnext =>
    obtain ⟨now, l, rfl, rfl, hcrashes⟩ := Attempt.receive_eq_crashed_iff.1 ⟨crash, hnext⟩
    have hstored := congrArg Prod.snd hhears.handle
    exact ⟨election, now, due, l, helection, h.phase_eq,
      LeaseStore.lease_eq_of_stored_eq_ok hstored, hcrashes⟩

theorem Decides.doomed (h : r.Decides r') (hcourse : (start m s).Course r)
    (hcrashed : r'.phase = .crashed) : r.Doomed m := by
  cases h with
  | elect hphase hsignal hexit helect =>
    obtain ⟨election, phase, helection, hseeking⟩ := hcourse.seeking hphase
    obtain ⟨world, progress, hsettle, ⟨next, log, -, rfl, -⟩ | ⟨-, rfl⟩ | ⟨⟨outcome, rfl⟩, rfl⟩⟩ :=
      elect_cases helect
    · cases hcrashed
    · cases hcrashed
    · refine hseeking.doomed helection hphase hsettle ?_
      rintro rfl
      have hgained := helect
      rw [Run.elect, hsettle] at hgained
      exact nomatch congrArg Run.phase (Option.some.inj hgained)
  | @note t ending hphase hunnoted =>
    rcases r.noteEnding_cases t ending with ⟨error, -, heq⟩ | ⟨-, heq⟩
    · rw [heq] at hcrashed
      cases hcrashed
    · rw [heq] at hcrashed
      exact nomatch hphase.symm.trans hcrashed
  | finish | abortServers =>
    exact absurd hcrashed (phase_finish (motive := (· ≠ .crashed)) _ _ _ (fun _ => nofun) nofun)
  | handBack hphase hback =>
    obtain ⟨world, progress, -, ⟨next, -, rfl⟩ | ⟨-, log, rfl, -⟩⟩ := handBack_cases hback
    all_goals cases hcrashed
  | _ => cases hcrashed

/-- **How a run dies**: its webhooks cannot be served together, or it was doomed. -/
theorem Course.crashed (h : (start m s).Course r) (hcrashed : r.phase = .crashed) :
    Webhook.Service.build? m.webhooks = none ∨
      ∃ b, (start m s).Course b ∧ b.Course r ∧ b.Doomed m := by
  induction h with
  | refl =>
    obtain ⟨error, -, heq⟩ | ⟨servers, -, ⟨hbuild, heq⟩ | ⟨-, ⟨election, -, heq⟩ | ⟨-, heq⟩⟩⟩ :=
      start_cases m s
    case inr.inl => exact .inl hbuild
    all_goals
      rw [heq] at hcrashed
      cases hcrashed
  | @tail b c hcourse hhappens ih =>
    have hbefore : b.phase = .crashed → Webhook.Service.build? m.webhooks = none ∨
        ∃ d, (start m s).Course d ∧ d.Course c ∧ d.Doomed m := fun hb =>
      (ih hb).imp_right fun ⟨d, hd, hdb, hdoomed⟩ => ⟨d, hd, hdb.tail hhappens, hdoomed⟩
    cases id hhappens with
    | serve | behave | destine => exact hbefore hcrashed
    | tick limit htick =>
      cases advances_of_tick htick with
      | decide hturn hdecide =>
        exact .inr ⟨b, hcourse, .single hhappens,
          (decides_of_decide? hdecide).doomed hcourse hcrashed⟩
      | yield | rest => exact hbefore hcrashed
      | move hturn hmove =>
        obtain ⟨controllers, servers, log, rfl, -⟩ := move?_cases hmove
        exact hbefore hcrashed
      | @wait time =>
        obtain ⟨signal, server, log, heq⟩ := b.arrive_cases (max time b.time)
        rw [heq] at hcrashed
        exact hbefore hcrashed

end Run

end ControllerManager.Manager
