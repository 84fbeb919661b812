import ControllerManager.Proofs.Manager.Drain

/-!
# Controllers that return by themselves

The steps of a controller say when it returns by itself, once it is known when it was called and
when it is asked to stop. A controller that is left to itself keeps to that: it is not aborted if it
returns before the time to stop is over, and it has not ended if it does not.

## Main definitions

* `Manager.returnTime?` — when a controller returns by itself.
* `Manager.Run.Leaves` — what happens to a run leaves a controller to itself.
* `Manager.Run.Foreseen` — what has become of a controller is what its steps say.
* `Manager.Run.ClosedAt` — how a run is closed.
* `Manager.Run.KeepsTo` — what a controller comes to that is left to itself.

## Main results

* `Manager.Run.foreseen_of_leaves` — a controller that is left to itself keeps to its steps.
* `Manager.Run.graceful_drain` — how every run drains its tasks, and whom it aborts.
-/

namespace ControllerManager.Manager

open Election Simulation

/-! ### The time of the return -/

/-- When a controller returns by itself that takes its next step at a time, if it ever does. It is
asked to stop at `stop`. -/
def returnTime? (stop : Nat) : Nat → Controller → Option Nat
  | time, [] => some time
  | time, .sleep duration :: steps => returnTime? stop (time + duration) steps
  | time, .fail _ :: _ => some time
  | time, .crash _ :: _ => some time
  | time, .awaitStop :: steps => returnTime? stop (max time stop) steps
  | time, .report :: steps => returnTime? stop time steps
  | _, .hang :: _ => none

theorem le_of_returnTime? {stop time e : Nat} {steps : Controller}
    (h : returnTime? stop time steps = some e) : time ≤ e := by
  induction steps generalizing time with
  | nil => exact Nat.le_of_eq (Option.some.inj h)
  | cons step steps ih =>
    cases step with
    | sleep duration => exact Nat.le_trans (Nat.le_add_right _ _) (ih h)
    | fail | crash => exact Nat.le_of_eq (Option.some.inj h)
    | awaitStop => exact Nat.le_trans (Nat.le_max_left _ _) (ih h)
    | report => exact ih h
    | hang => cases h

namespace ControllerState

/-- When a controller returns by itself that is in this state at `time`. -/
def returnTime? (stop time : Nat) : ControllerState → Option Nat
  | .called steps | .active steps => Manager.returnTime? stop time steps
  | .sleeping wake steps => Manager.returnTime? stop wake steps
  | .ended _ _ | .aborted => none

/-- Who sleeps does not sleep any longer than it has to. -/
def Punctual (time : Nat) : ControllerState → Prop
  | .sleeping wake _ => time ≤ wake
  | .called _ | .active _ | .ended _ _ | .aborted => True

variable {state : ControllerState} {stop time e : Nat}

theorem Punctual.le_of_returnTime? (hpunctual : state.Punctual time)
    (h : state.returnTime? stop time = some e) : time ≤ e := by
  cases state with
  | called | active => exact Manager.le_of_returnTime? h
  | sleeping wake steps => exact Nat.le_trans hpunctual (Manager.le_of_returnTime? h)
  | ended | aborted => cases h

end ControllerState

namespace ControllerTask

variable {t t' : ControllerTask} {time time' : Nat} {stopped : Bool}

/-- A controller that moves returns now, or when it would have returned. -/
theorem returnTime?_advance (stop : Nat) {happening : Option Happening}
    (h : t.advance time stopped = some (t', happening)) (hpunctual : t.state.Punctual time) :
    (t'.isOver = false ∧ t'.state.Punctual time ∧
        ((stopped = true → stop ≤ time) →
          t'.state.returnTime? stop time = t.state.returnTime? stop time)) ∨
      (∃ ending, t'.state = .ended ending false) ∧
        t.state.returnTime? stop time = some time := by
  obtain ⟨name, state⟩ := t
  unfold advance at h
  cases state with
  | called steps =>
    cases h
    exact .inl ⟨rfl, trivial, fun _ => rfl⟩
  | active steps =>
    rcases steps with _ | ⟨step, steps⟩
    · cases h
      exact .inr ⟨⟨_, rfl⟩, rfl⟩
    · cases step with
      | sleep duration =>
        cases h
        exact .inl ⟨rfl, Nat.le_add_right _ _, fun _ => rfl⟩
      | fail | crash =>
        cases h
        exact .inr ⟨⟨_, rfl⟩, rfl⟩
      | awaitStop =>
        dsimp only at h
        split_ifs at h with hstopped
        cases h
        refine .inl ⟨rfl, trivial, fun hstop => ?_⟩
        show returnTime? stop time steps = returnTime? stop (max time stop) steps
        rw [Nat.max_eq_left (hstop hstopped)]
      | report =>
        cases h
        exact .inl ⟨rfl, trivial, fun _ => rfl⟩
      | hang => cases h
  | sleeping wake steps =>
    dsimp only at h
    split_ifs at h with hwake
    cases h
    refine .inl ⟨rfl, trivial, fun _ => ?_⟩
    show returnTime? stop time steps = returnTime? stop wake steps
    rw [Nat.le_antisymm hpunctual hwake]
  | ended | aborted => cases h

/-- A controller that has nothing to do lets the clock go on, up to its next move and up to the
request to stop. -/
theorem returnTime?_wait (stop : Nat) (h : t.advance time stopped = none)
    (hnext : ∀ wake, t.nextTime = some wake → time' ≤ max wake time) :
    t.state.Punctual time' ∧ (time ≤ time' → (stopped = false → time' ≤ stop) →
      t.state.returnTime? stop time' = t.state.returnTime? stop time) := by
  obtain ⟨name, state⟩ := t
  unfold advance at h
  cases state with
  | called => cases h
  | active steps =>
    refine ⟨trivial, fun hle hstop => ?_⟩
    rcases steps with _ | ⟨step, steps⟩
    · cases h
    · cases step with
      | sleep | fail | crash | report => cases h
      | awaitStop =>
        dsimp only at h
        split_ifs at h with hstopped
        have hlate := hstop (eq_false_of_ne_true hstopped)
        show returnTime? stop (max time' stop) steps = returnTime? stop (max time stop) steps
        rw [Nat.max_eq_right hlate, Nat.max_eq_right (Nat.le_trans hle hlate)]
      | hang => rfl
  | sleeping wake steps =>
    dsimp only at h
    split_ifs at h with hwake
    have hbound := hnext wake rfl
    rw [Nat.max_eq_left (Nat.le_of_not_le hwake)] at hbound
    exact ⟨hbound, fun _ _ => rfl⟩
  | ended | aborted => exact ⟨trivial, fun _ _ => rfl⟩

end ControllerTask

namespace Run

variable {m : Manager} {s : Surroundings} {r r' : Run} {i limit stop begun : Nat}
  {steps : Controller} {t t' : ControllerTask}

/-! ### The request to stop -/

/-- The request to stop is passed on at `stop`, or may still be. -/
def StopsAt (stop : Nat) (r : Run) : Prop :=
  r.stopped = some stop ∨ r.stopped = none ∧ r.time ≤ stop

/-- The request to stop is passed on once, and at the time at which this happens. -/
theorem Happens.stopped (h : r.Happens r') :
    r'.stopped = r.stopped ∨ r.stopped = none ∧ r'.stopped = some r.time := by
  have hstop : r.stopped.or (some r.time) = r.stopped ∨
      r.stopped = none ∧ r.stopped.or (some r.time) = some r.time := by
    cases r.stopped with
    | none => exact .inr ⟨rfl, rfl⟩
    | some time => exact .inl rfl
  cases h with
  | serve | behave | destine => exact .inl rfl
  | tick limit htick =>
    cases advances_of_tick htick with
    | decide hturn hdecide =>
      cases decides_of_decide? hdecide with
      | abandon | failEarly | stop | lose | fail => exact hstop
      | elect hphase hsignal hexit helect =>
        obtain ⟨world, progress, -, ⟨next, log, -, rfl, -⟩ | ⟨-, rfl⟩ | ⟨-, rfl⟩⟩ :=
          elect_cases helect
        all_goals exact .inl rfl
      | @note t ending =>
        rcases r.noteEnding_cases t ending with ⟨error, -, heq⟩ | ⟨-, heq⟩
        · rw [heq]
          exact hstop
        · rw [heq]
          exact .inl rfl
      | drained | abort => exact .inl rfl
      | finish => exact .inl (r.outcome_finish _ _).2
      | abortServers => exact .inl (outcome_finish _ _ _).2
      | handBack hphase hback =>
        obtain ⟨world, progress, -, ⟨next, -, rfl⟩ | ⟨-, log, rfl, -⟩⟩ := handBack_cases hback
        all_goals exact .inl rfl
    | yield | rest => exact .inl rfl
    | move hturn hmove =>
      obtain ⟨controllers, servers, log, rfl, -⟩ := move?_cases hmove
      exact .inl rfl
    | @wait time =>
      obtain ⟨signal, server, log, heq⟩ := r.arrive_cases (max time r.time)
      rw [heq]
      exact .inl rfl

/-- When the request to stop is passed on could be said before. -/
theorem StopsAt.before (h : r'.StopsAt stop) (hhappens : r.Happens r') : r.StopsAt stop := by
  rcases hhappens.stopped with hsame | ⟨hnone, hsome⟩
  · rw [StopsAt, hsame] at h
    exact h.imp_right fun ⟨hnone, hle⟩ => ⟨hnone, Nat.le_trans hhappens.time_le hle⟩
  · rcases h with hnow | ⟨hnot, -⟩
    · rw [hsome] at hnow
      exact .inr ⟨hnone, Nat.le_of_eq (Option.some.inj hnow)⟩
    · rw [hsome] at hnot
      cases hnot

theorem Course.stopped_le (h : (start m s).Course r) (hstopped : r.stopped = some stop) :
    stop ≤ r.time := by
  induction h with
  | refl =>
    rw [(attends_start m s).stopped] at hstopped
    cases hstopped
  | @tail b c _ hhappens ih =>
    rcases hhappens.stopped with hsame | ⟨-, hnow⟩
    · exact Nat.le_trans (ih (hsame.symm.trans hstopped)) hhappens.time_le
    · rw [hnow] at hstopped
      cases hstopped
      exact hhappens.time_le

/-! ### Controllers that are left to themselves -/

/-- Something happens to a run that leaves a controller to itself: the run goes on, or the
controller is not touched. -/
def Leaves (i : Nat) (r r' : Run) : Prop :=
  r.Happens r' ∧ ((∃ limit, r.tick limit = some r') ∨ r'.controllers[i]? = r.controllers[i]?)

theorem course_of_leaves (h : Relation.ReflTransGen (Leaves i) r r') : r.Course r' := by
  induction h with
  | refl => exact .refl
  | tail _ hleaves ih => exact ih.tail hleaves.1

/-- What has become of a controller is what its steps say, which it began to take at `begun`: it
returns when they say, and it is aborted only if this is not before the time to stop is over. -/
structure Foreseen (m : Manager) (begun : Nat) (steps : Controller) (r : Run) (t : ControllerTask) :
    Prop where
  punctual : t.state.Punctual r.time
  runs : t.isOver = false → ∀ stop, r.StopsAt stop →
    t.state.returnTime? stop r.time = returnTime? stop begun steps
  ended : ∀ ending noted, t.state = .ended ending noted → ∀ stop, r.StopsAt stop →
    ∃ e, returnTime? stop begun steps = some e ∧ e ≤ r.time ∧ (e ≤ stop ∨ e < stop + m.grace)
  aborted : t.state = .aborted → ∀ stop, r.StopsAt stop →
    ∀ e, returnTime? stop begun steps = some e → stop + m.grace ≤ e
  /-- Before the clock goes on it has done what it can do. -/
  rests : r.turn = .closing → t.advance r.time r.stopped.isSome = none

theorem foreseen_called (name : String) (r : Run) (hturn : r.turn = .opening) :
    Foreseen m r.time steps r ⟨name, .called steps⟩ :=
  ⟨trivial, fun _ _ _ => rfl, nofun, nofun, fun hclosing => nomatch hturn.symm.trans hclosing⟩

/-- A controller that does nothing stays foreseen, while the clock stands still. -/
theorem Foreseen.stay (h : Foreseen m begun steps r t) (hhappens : r.Happens r')
    (htime : r'.time = r.time)
    (hrests : r'.turn = .closing → t.advance r'.time r'.stopped.isSome = none) :
    Foreseen m begun steps r' t := by
  refine ⟨htime ▸ h.punctual, fun hruns stop hstop => ?_, fun ending noted hended stop hstop => ?_,
    fun haborted stop hstop => h.aborted haborted stop (hstop.before hhappens), hrests⟩
  · rw [htime]
    exact h.runs hruns stop (hstop.before hhappens)
  · rw [htime]
    exact h.ended ending noted hended stop (hstop.before hhappens)

/-- That the manager takes note of the end of a controller changes nothing about it. -/
theorem Foreseen.note (h : Foreseen m begun steps r t) {ending : Ending} {noted : Bool}
    (hended : t.state = .ended ending noted) :
    Foreseen m begun steps r { t with state := .ended ending true } :=
  ⟨trivial, nofun, fun _ _ _ => h.ended ending noted hended, nofun, fun _ => rfl⟩

/-- Where a controller is aborted, its return is still to come. -/
theorem Foreseen.abort (h : Foreseen m begun steps r t) (hruns : t.isOver = false)
    (hlate : ∀ stop, r.StopsAt stop → stop + m.grace ≤ r.time) :
    Foreseen m begun steps r { t with state := .aborted } := by
  refine ⟨trivial, nofun, nofun, fun _ stop hstop e he => ?_, fun _ => rfl⟩
  rw [← h.runs hruns stop hstop] at he
  exact Nat.le_trans (hlate stop hstop) (h.punctual.le_of_returnTime? he)

/-- A controller that moves keeps to its steps. -/
theorem Foreseen.advance (h : Foreseen m begun steps r t) {happening : Option Happening}
    (hmoves : t.advance r.time r.stopped.isSome = some (t', happening))
    (hstopped : ∀ stop, r.stopped = some stop → stop ≤ r.time ∧ r.time < stop + m.grace)
    (hhappens : r.Happens r') (htime : r'.time = r.time) (hturn : r'.turn ≠ .closing) :
    Foreseen m begun steps r' t' := by
  have hruns := (ControllerTask.advance_cases hmoves).1
  have hrests : r'.turn = .closing → t'.advance r'.time r'.stopped.isSome = none :=
    fun hclosing => absurd hclosing hturn
  have hasked : ∀ {stop}, r.StopsAt stop → r.stopped.isSome = true → stop ≤ r.time := by
    rintro stop (hsome | ⟨hnone, -⟩) hisSome
    · exact (hstopped stop hsome).1
    · rw [hnone] at hisSome
      cases hisSome
  refine ⟨?_, fun hruns' stop hstop => ?_, fun ending noted hended stop hstop => ?_,
    fun haborted => ?_, hrests⟩
  · rw [htime]
    rcases ControllerTask.returnTime?_advance 0 hmoves h.punctual with
      ⟨-, hpunctual, -⟩ | ⟨⟨ending, hended⟩, -⟩
    · exact hpunctual
    · rw [hended]
      trivial
  · rcases ControllerTask.returnTime?_advance stop hmoves h.punctual with
      ⟨-, -, hsame⟩ | ⟨⟨ending, hended⟩, -⟩
    · have hstop := hstop.before hhappens
      rw [htime, hsame (hasked hstop)]
      exact h.runs hruns stop hstop
    · rw [ControllerTask.isOver, hended] at hruns'
      cases hruns'
  · rcases ControllerTask.returnTime?_advance stop hmoves h.punctual with
      ⟨hruns', -⟩ | ⟨-, hnow⟩
    · rw [ControllerTask.isOver, hended] at hruns'
      cases hruns'
    · have hstop := hstop.before hhappens
      refine ⟨r.time, (h.runs hruns stop hstop).symm.trans hnow, htime.ge, ?_⟩
      exact hstop.symm.imp And.right fun hsome => (hstopped stop hsome).2
  · rcases ControllerTask.returnTime?_advance 0 hmoves h.punctual with
      ⟨hruns', -⟩ | ⟨⟨ending, hended⟩, -⟩
    · rw [ControllerTask.isOver, haborted] at hruns'
      cases hruns'
    · rw [hended] at haborted
      cases haborted

/-- A controller that has done what it can do keeps to its steps while the clock goes on. -/
theorem Foreseen.wait (h : Foreseen m begun steps r t) (hclosing : r.turn = .closing)
    (ht : t ∈ r.controllers) {next : Nat} (hnext : r.nextTime = some next)
    (hhappens : r.Happens (r.arrive (max next r.time))) :
    Foreseen m begun steps (r.arrive (max next r.time)) t := by
  have hwake : ∀ wake, t.nextTime = some wake → max next r.time ≤ max wake r.time := by
    intro wake htime
    have hle : next ≤ wake := (List.min?_eq_some_iff.1 hnext).2 wake (by
      simp only [List.mem_append, List.mem_filterMap]
      exact .inl (.inl (.inl (.inr ⟨t, ht, htime⟩))))
    exact max_le_max_right _ hle
  have hwaits := fun stop =>
    ControllerTask.returnTime?_wait stop (h.rests hclosing) hwake
  have hbefore := fun {stop} (hstop : (r.arrive (max next r.time)).StopsAt stop) =>
    hstop.before hhappens
  obtain ⟨signal, server, log, heq⟩ := r.arrive_cases (max next r.time)
  rw [heq] at hbefore ⊢
  refine ⟨(hwaits 0).1, fun hruns stop hstop => ?_, fun ending noted hended stop hstop => ?_,
    fun haborted stop hstop => h.aborted haborted stop (hbefore hstop), nofun⟩
  · refine ((hwaits stop).2 (Nat.le_max_right _ _) fun hnot => ?_).trans
      (h.runs hruns stop (hbefore hstop))
    rcases hstop with hsome | ⟨-, hle⟩
    · rw [show r.stopped = some stop from hsome] at hnot
      cases hnot
    · exact hle
  · obtain ⟨e, he, hle, hbound⟩ := h.ended ending noted hended stop (hbefore hstop)
    exact ⟨e, he, Nat.le_trans hle (Nat.le_max_right _ _), hbound⟩

/-! ### What a run makes of a controller -/

/-- A move leaves a controller alone, or it is the move of that controller. -/
theorem move?_controller (h : r.move? = some r') (ht' : r'.controllers[i]? = some t') :
    r.controllers[i]? = some t' ∨ ∃ t happening, r.controllers[i]? = some t ∧
      t.advance r.time r.stopped.isSome = some (t', happening) := by
  unfold move? at h
  split at h
  · rename_i controllers name happening hmove
    have hcontrollers : r'.controllers = controllers := by
      split at h <;> cases h <;> rfl
    obtain ⟨j, t, moved, happening, ht, hadvance, rfl⟩ := moveController_advance hmove
    rw [hcontrollers] at ht'
    by_cases hij : j = i
    · subst hij
      rw [List.getElem?_set_self (List.getElem?_eq_some_iff.1 ht).1] at ht'
      cases ht'
      exact .inr ⟨t, happening, ht, hadvance⟩
    · rw [List.getElem?_set_ne hij] at ht'
      exact .inl ht'
  · obtain ⟨servers, -, rfl⟩ := Option.map_eq_some_iff.1 h
    exact .inl ht'

/-- Where no controller moves, none of them can. -/
theorem advance_eq_none {time : Nat} {stopped : Bool} {tasks : List ControllerTask}
    (h : moveController time stopped tasks = none) :
    ∀ t ∈ tasks, t.advance time stopped = none := by
  induction tasks with
  | nil => exact nofun
  | cons t rest ih =>
    unfold moveController at h
    split at h
    · cases h
    · rename_i hstill
      intro t' ht'
      rcases List.mem_cons.1 ht' with rfl | hrest
      · exact hstill
      · exact ih (Option.map_eq_none_iff.1 h) t' hrest

/-- What a decision makes of a controller that was called before. -/
theorem Decides.controller (h : r.Decides r') (hquiet : ¬ r.Musters { r' with turn := .opening })
    (ht' : r'.controllers[i]? = some t') :
    ∃ t, r.controllers[i]? = some t ∧
      (t' = t ∨ (∃ o, r'.phase.outcome? = some o) ∧ t' = t.abort ∨ ∃ ending noted,
        t.state = .ended ending noted ∧ t' = { t with state := .ended ending true }) := by
  cases h with
  | abandon | failEarly | stop | lose | fail | drained => exact ⟨t', ht', .inl rfl⟩
  | elect hphase hsignal hexit helect =>
    obtain ⟨world, progress, hsettle, ⟨next, log, -, rfl, -⟩ | ⟨rfl, rfl⟩ | ⟨-, rfl⟩⟩ :=
      elect_cases helect
    · exact ⟨t', ht', .inl rfl⟩
    · exact absurd ⟨_, world, hphase, hsettle, rfl⟩ hquiet
    · exact ⟨t', ht', .inl rfl⟩
  | @note t ending hphase =>
    have hcontrollers : (r.noteEnding t ending).controllers = noteEnd t.name r.controllers := by
      rcases r.noteEnding_cases t ending with ⟨error, -, heq⟩ | ⟨-, heq⟩
      all_goals
        rw [heq]
        rfl
    rw [hcontrollers, noteEnd, List.getElem?_map] at ht'
    obtain ⟨t₀, ht₀, rfl⟩ := Option.map_eq_some_iff.1 ht'
    refine ⟨t₀, ht₀, ?_⟩
    split
    · rename_i ending' noted hended
      split_ifs
      · exact .inr (.inr ⟨ending', noted, hended, rfl⟩)
      · exact .inl rfl
    · exact .inl rfl
  | abort =>
    have hmap : (r.controllers.map ControllerTask.abort)[i]? = some t' := ht'
    rw [List.getElem?_map] at hmap
    obtain ⟨t, ht, rfl⟩ := Option.map_eq_some_iff.1 hmap
    exact ⟨t, ht, .inr (.inl ⟨⟨_, rfl⟩, rfl⟩)⟩
  | finish =>
    rw [(tasks_finish _ _ _).1] at ht'
    exact ⟨t', ht', .inl rfl⟩
  | abortServers =>
    rw [(tasks_finish _ _ _).1] at ht'
    exact ⟨t', ht', .inl rfl⟩
  | handBack hphase hback =>
    obtain ⟨world, progress, -, ⟨next, -, rfl⟩ | ⟨-, log, rfl, -⟩⟩ := handBack_cases hback
    all_goals exact ⟨t', ht', .inl rfl⟩

/-- While tasks move, the time to stop is not over. -/
theorem Course.lt_of_stopped (h : (start m s).Course r) (hopen : (start m s).phase.isOpen = true)
    (hrests : m.Rests) (hyields : r.Yields) (ht : t ∈ r.controllers) (hruns : t.isOver = false)
    (hover : r.isOver = false) (hstopped : r.stopped = some stop) :
    stop ≤ r.time ∧ r.time < stop + m.grace := by
  refine ⟨h.stopped_le hstopped, ?_⟩
  obtain ⟨n, hspends⟩ := h.spends
  rcases phase_cases r.phase with hundecided | ⟨o, ho⟩ | hcrashed
  · rw [(h.attends hundecided).stopped] at hstopped
    cases hstopped
  · obtain ⟨d, hd⟩ := hspends.decidedAt hopen hrests ho
    cases hd.stopped.symm.trans hstopped
    rcases hd.drains with ⟨-, hdrains⟩ | ⟨-, -, hdrains⟩
    all_goals exact hdrains.controllers hyields t ht hruns
  · rw [isOver, hcrashed] at hover
    cases hover

/-- Where a controller is aborted, the time to stop is over. -/
theorem Course.le_of_aborted (h : (start m s).Course r) (hopen : (start m s).phase.isOpen = true)
    (hrests : m.Rests) {o : Option Error} (ho : r.phase.outcome? = some o)
    (ht : t ∈ r.controllers) (haborted : t.state = .aborted) (hstop : r.StopsAt stop) :
    stop + m.grace ≤ r.time := by
  obtain ⟨n, hspends⟩ := h.spends
  obtain ⟨d, hd⟩ := hspends.decidedAt hopen hrests ho
  rcases hstop with hsome | ⟨hnone, -⟩
  · cases hd.stopped.symm.trans hsome
    exact hd.spared t ht haborted
  · rw [hd.stopped] at hnone
    cases hnone

/-- A tick keeps a controller to its steps. -/
theorem Foreseen.tick (h : Foreseen m begun steps r t) (hcourse : (start m s).Course r)
    (hopen : (start m s).phase.isOpen = true) (hrests : m.Rests) (hquiet : ¬ r.Musters r')
    (htick : r.tick limit = some r') (ht : r.controllers[i]? = some t)
    (ht' : r'.controllers[i]? = some t') : Foreseen m begun steps r' t' := by
  have hhappens : r.Happens r' := .tick limit htick
  have hover : r.isOver = false := by
    rw [Run.tick] at htick
    split_ifs at htick with hover
    exact eq_false_of_ne_true hover
  cases advances_of_tick htick with
  | @decide decided hturn hdecide =>
    have hdecides := decides_of_decide? hdecide
    have hstay := h.stay hhappens hdecides.stays.time fun hclosing => by cases hclosing
    obtain ⟨t₀, ht₀, hcases⟩ := hdecides.controller hquiet ht'
    cases ht.symm.trans ht₀
    rcases hcases with rfl | ⟨⟨o, ho⟩, rfl⟩ | ⟨ending, noted, hended, rfl⟩
    · exact hstay
    · unfold ControllerTask.abort at ht' ⊢
      split_ifs at ht' ⊢ with hended
      · exact hstay
      · refine hstay.abort (eq_false_of_ne_true hended) fun stop hstop => ?_
        exact Course.le_of_aborted (hcourse.tail hhappens) hopen hrests ho
          (List.mem_of_getElem? ht') rfl hstop
    · exact hstay.note hended
  | yield hturn hdecide =>
    cases ht.symm.trans ht'
    exact h.stay hhappens rfl fun hclosing => by cases hclosing
  | move hturn hmove =>
    have hkeeps := move?_cases hmove
    have htime : r'.time = r.time := by
      obtain ⟨controllers, servers, log, rfl, -⟩ := hkeeps
      rfl
    have hnext : r'.turn ≠ .closing := by
      obtain ⟨controllers, servers, log, rfl, -⟩ := hkeeps
      show r.turn ≠ .closing
      rw [hturn]
      decide
    rcases move?_controller hmove ht' with hsame | ⟨t₀, happening, ht₀, hadvance⟩
    · cases ht.symm.trans hsame
      exact h.stay hhappens htime fun hclosing => absurd hclosing hnext
    · cases ht.symm.trans ht₀
      have hruns := (ControllerTask.advance_cases hadvance).1
      exact h.advance hadvance (fun stop hstopped => hcourse.lt_of_stopped hopen hrests
        (.inl hturn) (List.mem_of_getElem? ht) hruns hover hstopped) hhappens htime hnext
  | rest hturn hmove =>
    cases ht.symm.trans ht'
    exact h.stay hhappens rfl fun _ =>
      advance_eq_none (move?_eq_none_iff.1 hmove).1 t (List.mem_of_getElem? ht)
  | @wait next hturn hdecide hnext =>
    have hsame : (r.arrive (max next r.time)).controllers = r.controllers := by
      obtain ⟨signal, server, log, heq⟩ := r.arrive_cases (max next r.time)
      rw [heq]
    rw [hsame] at ht'
    cases ht.symm.trans ht'
    exact h.wait hturn (List.mem_of_getElem? ht) hnext hhappens

theorem leaves_ticks (i : Nat) (r : Run) (limit steps : Nat) :
    Relation.ReflTransGen (Leaves i) r (r.ticks limit steps) := by
  induction steps generalizing r with
  | zero => exact .refl
  | succ steps ih =>
    unfold ticks
    cases htick : r.tick limit with
    | none => exact .refl
    | some r' => exact .head ⟨.tick limit htick, .inl ⟨limit, htick⟩⟩ (ih r')

/-- All controllers of a manager were just called. -/
def CallsAll (m : Manager) (b : Run) : Prop :=
  b.controllers = m.controllers.entries.map fun (name, steps) => ⟨name, .called steps⟩

theorem CallsAll.foreseen (h : CallsAll m r) (hturn : r.turn = .opening)
    (ht : r.controllers[i]? = some t) :
    ∃ steps, m.controllers.entries[i]? = some (t.name, steps) ∧ Foreseen m r.time steps r t := by
  rw [show r.controllers = _ from h, List.getElem?_map] at ht
  obtain ⟨⟨name, steps⟩, hentry, rfl⟩ := Option.map_eq_some_iff.1 ht
  exact ⟨steps, hentry, foreseen_called name r hturn⟩

/-- **A controller that is left to itself keeps to its steps.** -/
theorem foreseen_of_leaves (h : Relation.ReflTransGen (Leaves i) (start m s) r)
    (hopen : (start m s).phase.isOpen = true) (hrests : m.Rests)
    (ht : r.controllers[i]? = some t) :
    ∃ b steps, (start m s).Course b ∧ b.Course r ∧ CallsAll m b ∧
      m.controllers.entries[i]? = some (t.name, steps) ∧ Foreseen m b.time steps r t := by
  -- By induction on what happens, from the step in which the controllers are called.
  induction h generalizing t with
  | refl =>
    obtain ⟨error, -, heq⟩ | ⟨servers, -, ⟨-, heq⟩ | ⟨-, ⟨election, -, heq⟩ | ⟨-, heq⟩⟩⟩ :=
      start_cases m s
    case inr.inr.inr =>
      have hcalls : CallsAll m (start m s) := by
        rw [heq]
        rfl
      obtain ⟨steps, hentry, hforeseen⟩ := hcalls.foreseen (by rw [heq]; rfl) ht
      exact ⟨_, steps, .refl, .refl, hcalls, hentry, hforeseen⟩
    all_goals
      rw [heq] at ht
      cases ht
  | @tail a c hleft hleaves ih =>
    have hcourse : (start m s).Course a := course_of_leaves hleft
    have hhappens := hleaves.1
    rcases hhappens.musters_or_quiet with hmusters | hquiet
    · obtain ⟨hstaff, -⟩ := hcourse.registered
      obtain ⟨activity, world, -, -, rfl⟩ := hmusters
      have hcalls : CallsAll m
          { ({ a with world := world }.note .leaseAcquired).lead with turn := .opening } := by
        rw [CallsAll, ← hstaff]
        rfl
      obtain ⟨steps, hentry, hforeseen⟩ := hcalls.foreseen rfl ht
      exact ⟨_, steps, hcourse.tail hhappens, .refl, hcalls, hentry, hforeseen⟩
    · have hnames : a.names[i]? = some t.name := by
        rw [← hquiet.names, names, List.getElem?_map, ht]
        rfl
      rw [names, List.getElem?_map] at hnames
      obtain ⟨t₀, ht₀, hname⟩ := Option.map_eq_some_iff.1 hnames
      obtain ⟨b, steps, hb, hba, hcalls, hentry, hforeseen⟩ := ih ht₀
      -- A run that already has controllers does not call them.
      have hcalled : ¬ a.Musters c := by
        rintro ⟨activity, world, hphase, -⟩
        obtain ⟨election, phase, -, hseeking⟩ := hcourse.seeking hphase
        rw [hseeking.controllers] at ht₀
        cases ht₀
      refine ⟨b, steps, hb, hba.tail hhappens, hcalls, hname ▸ hentry, ?_⟩
      have htick : ∀ {limit}, a.tick limit = some c → Foreseen m b.time steps c t := fun htick =>
        hforeseen.tick hcourse hopen hrests hcalled htick ht₀ ht
      rcases hleaves.2 with ⟨limit, hticks⟩ | hsame
      · exact htick hticks
      · cases ht₀.symm.trans (hsame.symm.trans ht)
        cases id hhappens with
        | serve | behave | destine => exact hforeseen.stay hhappens rfl hforeseen.rests
        | tick limit hticks => exact htick hticks

/-! ### The drain as a whole -/

/-- How a run is closed whose outcome is `o`: it was decided at `d`, and the release of its lease
has waited for answers for a time of at most `n`. -/
structure ClosedAt (m : Manager) (s : Surroundings) (n : Nat) (o : Option Error) (d r : Run) :
    Prop where
  reached : (start m s).Course d
  course : d.Course r
  /-- It was decided by an event that was there then, and no event was there before. -/
  ends : d.Ends o
  first : ∀ b o', (start m s).Course b → b.Course d → b.Ends o' → b.time = d.time
  /-- At that time the request to stop is passed on, and not before. -/
  waited : d.stopped = none
  stopped : r.stopped = some d.time
  /-- Where it has led, its controllers are drained and then its servers; where it has awaited the
  lease, its servers alone. -/
  drains : d.phase = .leading ∧ r.Drains d.time m.grace (d.time + 2 * m.grace) n ∨
    (∃ activity, d.phase = .electing activity) ∧ r.controllers = [] ∧
      r.Drains d.time m.grace (d.time + m.grace) 0
  returns : ∃ limit steps, (r.ticks limit steps).phase = .over o

theorem Spends.closedAt {n : Nat} {o : Option Error} (h : (start m s).Spends n r)
    (hopen : (start m s).phase.isOpen = true) (hrests : m.Rests) (ho : r.phase.outcome? = some o) :
    ∃ d, ClosedAt m s n o d r := by
  obtain ⟨d, hd⟩ := h.decidedAt hopen hrests ho
  refine ⟨d, hd.reached, hd.course, hd.ends, fun b o' hb hbd hends => ?_,
    (hd.reached.attends hd.isOpen).stopped, hd.stopped, hd.drains, ?_⟩
  · exact (hb.stands hbd hd.isOpen hends).1.symm
  · obtain ⟨limit, steps, o', hover⟩ :=
      exists_ticks_over h.course hrests (.inl fun hnone => nomatch hnone.symm.trans ho)
    have hphase := hover limit (Nat.le_refl limit)
    have hkept := (course_ticks r limit steps).outcome ho
    rw [hphase] at hkept
    cases hkept
    exact ⟨limit, steps, hphase⟩

/-- **A run with an event that ends it returns**, and the request to stop is passed on at the time
of that event. -/
theorem Course.returns {o : Option Error} (h : (start m s).Course r) (hrests : m.Rests)
    (hopen : r.phase.isOpen = true) (hends : r.Ends o) : ∃ limit steps o',
      (r.ticks limit steps).phase = .over o' ∧ (r.ticks limit steps).stopped = some r.time := by
  obtain ⟨limit, steps, o', hover⟩ := exists_ticks_over h hrests (.inr ⟨hopen, o, hends⟩)
  have hphase := hover limit (Nat.le_refl limit)
  obtain ⟨d, hrd, -, hdopen, -, hstopped⟩ :=
    h.decided hopen (course_ticks r limit steps) (by rw [hphase]; rfl)
  rw [(h.stands hrd hdopen hends).1] at hstopped
  exact ⟨limit, steps, o', hphase, hstopped⟩

/-- What has become of a controller that is left to itself. It was called at `begun`, and its time
to stop begins at `stop` and takes `grace`. -/
structure KeepsTo (grace stop begun : Nat) (steps : Controller) (r : Run) (t : ControllerTask) :
    Prop where
  /-- It does not run any longer than its steps say. -/
  runs : t.isOver = false → ∀ e, returnTime? stop begun steps = some e → r.time ≤ e
  /-- It has returned when they say, unless the time to stop was over then. -/
  ended : ∀ ending noted, t.state = .ended ending noted →
    ∃ e, returnTime? stop begun steps = some e ∧ e ≤ r.time ∧ (e ≤ stop ∨ e < stop + grace)
  /-- It is never aborted if it returns before the time to stop is over. -/
  spared : ∀ e, returnTime? stop begun steps = some e → e < stop + grace → t.state ≠ .aborted

theorem Foreseen.keepsTo (h : Foreseen m begun steps r t) (hstop : r.StopsAt stop) :
    KeepsTo m.grace stop begun steps r t := by
  refine ⟨fun hruns e he => ?_, fun ending noted hended => h.ended ending noted hended stop hstop,
    fun e he hearly haborted => ?_⟩
  · rw [← h.runs hruns stop hstop] at he
    exact h.punctual.le_of_returnTime? he
  · exact Nat.not_le_of_lt hearly (h.aborted haborted stop hstop e he)

/-- **How every run drains its tasks, and whom it aborts.** Once an event ends a run, the tasks are
asked to stop at once, and the run returns. From then on the controllers have the grace of the
manager to stop, and the servers have it once more. A controller that is left to itself returns when
its steps say, and is aborted only if this is not before the grace is over. The renewals of every
manager that was built rest (`rests_build`). -/
theorem graceful_drain (m : Manager) (s : Surroundings) (servers : List ServerTask)
    (hlisten : serverTasks m s.site = .ok servers) (hrests : m.Rests) :
    (∀ r o, (start m s).Course r → r.phase.isOpen = true → r.Ends o → ∃ limit steps o',
        (r.ticks limit steps).phase = .over o' ∧ (r.ticks limit steps).stopped = some r.time) ∧
      (∀ n r o, (start m s).Spends n r → r.phase.outcome? = some o → ∃ d, ClosedAt m s n o d r) ∧
      ∀ i r t, Relation.ReflTransGen (Leaves i) (start m s) r → r.controllers[i]? = some t →
        ∃ b steps, (start m s).Course b ∧ b.Course r ∧ CallsAll m b ∧
          m.controllers.entries[i]? = some (t.name, steps) ∧
          ∀ stop, r.StopsAt stop → KeepsTo m.grace stop b.time steps r t := by
  refine ⟨fun r o hcourse hopen hends => hcourse.returns hrests hopen hends, ?_⟩
  rcases start_isOpen hlisten with ⟨-, hopen⟩ | ⟨-, hcrashed⟩
  · refine ⟨fun n r o hspends ho => hspends.closedAt hopen hrests ho, fun i r t hleft ht => ?_⟩
    obtain ⟨b, steps, hb, hbr, hcalls, hentry, hforeseen⟩ :=
      foreseen_of_leaves hleft hopen hrests ht
    exact ⟨b, steps, hb, hbr, hcalls, hentry, fun stop hstop => hforeseen.keepsTo hstop⟩
  -- A run that dies at once is not decided, and has no controllers.
  · have hover : (start m s).isOver = true := by rw [isOver, hcrashed]
    refine ⟨fun n r o hspends ho => ?_, fun i r t hleft ht => ?_⟩
    · rw [(hspends.course.stays hover).1, hcrashed] at ho
      cases ho
    · rcases (course_of_leaves hleft).convened with ⟨-, hnobody, -⟩ | ⟨b, hb, -, hconvenes⟩
      · rw [List.map_eq_nil_iff.1 hnobody] at ht
        cases ht
      · cases hcrashed.symm.trans ((hb.stays hover).1.symm.trans hconvenes.phase)

/-- A manager without an election and with a grace of a second. One of its controllers needs all but
a nanosecond of it to stop, and the other one never stops. -/
def slowManager : Manager :=
  { soleManager Timing.perSecond [] with
    election := none
    controllers := ⟨[("slow", [.awaitStop, .sleep 999999999]), ("stuck", [.hang])], by decide⟩ }

/-- An observer asks for the stop after a second. -/
def stopSurroundings : Surroundings :=
  { lateAnswer 0 with agenda := [(Timing.perSecond, .shutdown)] }

/-- When this manager is asked to stop, the slow controller ends by itself before the stuck one is
aborted. -/
theorem slow_and_stuck_drained : ∃ n r d b t,
    (start slowManager stopSurroundings).Spends n r ∧
      ClosedAt slowManager stopSurroundings n none d r ∧
      r.controllers = [⟨"slow", .ended .finished false⟩, ⟨"stuck", .aborted⟩] ∧
      r.controllers[0]? = some t ∧ CallsAll slowManager b ∧
      KeepsTo Timing.perSecond Timing.perSecond b.time [.awaitStop, .sleep 999999999] r t := by
  let limit := 5 * Timing.perSecond
  let r := (start slowManager stopSurroundings).ticks limit 18
  have hruns : r.phase.outcome? = some none ∧ r.stopped = some Timing.perSecond ∧
      r.controllers = [⟨"slow", .ended .finished false⟩, ⟨"stuck", .aborted⟩] := by
    decide +kernel
  obtain ⟨ho, hstopped, hcontrollers⟩ := hruns
  have hrests : slowManager.Rests := fun _ helection => nomatch helection
  obtain ⟨n, hspends⟩ := (course_ticks (start slowManager stopSurroundings) limit 18).spends
  obtain ⟨-, hcloses, hkeeps⟩ := graceful_drain slowManager stopSurroundings [] rfl hrests
  obtain ⟨d, hclosed⟩ := hcloses n r none hspends ho
  have hslow : r.controllers[0]? = some ⟨"slow", .ended .finished false⟩ := by
    rw [hcontrollers]
    rfl
  obtain ⟨b, steps, -, -, hcalls, hentry, hkeepsTo⟩ :=
    hkeeps 0 r _ (leaves_ticks 0 _ limit 18) hslow
  cases hentry
  exact ⟨n, r, d, b, _, hspends, hclosed, hcontrollers, hslow, hcalls,
    hkeepsTo Timing.perSecond (.inl hstopped)⟩

end Run

end ControllerManager.Manager
