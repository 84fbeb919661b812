import ControllerManager.Proofs.Election.Flag
import ControllerManager.Proofs.Simulation.Ownership
import ControllerManager.Simulation.Command

/-!
# The flag of an elector in a world

In a world with one elector, whatever an observer asks for is a sequence of events of that elector.
Its flag and what is recorded are those of the standing that it has after these events. The observer
keeps one guard: when the lease is gained again, the earlier guard is dropped, which clears the
flag.

## Main definitions

* `Simulation.World.Shows` — a world shows the standing of its elector.
* `Simulation.World.Lived` — the standing that a world shows comes from a sequence of events.
* `Simulation.World.obeyAll?` — the world after a list of commands.

## Main results

* `Simulation.World.Lived.runActivity`, `Simulation.World.Lived.obey` — activities and commands are
  sequences of events.
* `Simulation.World.flag_truthful_iff` — when the flag is true over a whole life.
-/

namespace ControllerManager.Simulation

open Cluster Election

namespace World

variable {w w' : World} {i : Nat} {c : Candidate} {g : Guard} {e : Elector} {s : Standing}

/-- A world with one elector shows its standing. -/
structure Shows (w : World) (c : Candidate) (s : Standing) : Prop where
  sole : w.candidates = [c]
  isLeader : s.isLeader = c.isLeader
  recorded : s.recorded = w.leadership
  renewals : s.holdings.map Holding.renewal = (c.guard.map Guard.renewal).toList

/-- The standing that a world shows comes from a sequence of events of its elector. -/
def Lived (e : Elector) (w : World) : Prop :=
  ∃ c events, c.elector = e ∧ w.Shows c (Standing.run e events)

theorem lived_initial (clock : WallClock) (server : Server) (connected : Bool) (e : Elector) :
    (initial clock server connected [e]).Lived e :=
  ⟨⟨e, false, none⟩, [], rfl, rfl, rfl, rfl, rfl⟩

theorem Lived.congr (h : w.Lived e) (hcandidates : w'.candidates = w.candidates)
    (hleadership : w'.leadership = w.leadership) : w'.Lived e := by
  obtain ⟨c, events, helector, hshows⟩ := h
  exact ⟨c, events, helector, hcandidates.trans hshows.sole, hshows.isLeader,
    hshows.recorded.trans hleadership.symm, hshows.renewals⟩

/-- A world lives on by events of its elector. -/
theorem Lived.goOn (h : w.Lived e) (hc : w.candidate? i = some c) (c' : Candidate)
    (events : List Standing.Event) (helector : c'.elector = c.elector)
    (hshows : i = 0 → ∀ s, w.Shows c s → w'.Shows c' (events.foldl (Standing.after c.elector) s)) :
    w'.Lived e := by
  obtain ⟨d, before, rfl, hbefore⟩ := h
  rw [candidate?, hbefore.sole] at hc
  obtain ⟨hi, rfl⟩ := List.getElem?_eq_some_iff.1 hc
  obtain rfl : i = 0 := Nat.lt_one_iff.1 hi
  refine ⟨c', before ++ events, helector, ?_⟩
  rw [Standing.run, List.foldl_append]
  exact hshows rfl _ hbefore

/-- The guard of a candidate is the only one that its elector has handed out. -/
theorem Shows.holdings_eq (h : w.Shows c s) (hg : c.guard = some g) :
    ∃ gaveUp, s.holdings = [⟨g.renewal, gaveUp⟩] := by
  have hrenewals := h.renewals
  rw [hg] at hrenewals
  obtain ⟨⟨renewal, gaveUp⟩, hholdings, rfl⟩ := List.map_eq_singleton_iff.1 hrenewals
  exact ⟨gaveUp, hholdings⟩

theorem Shows.holdings_eq_nil (h : w.Shows c s) (hg : c.guard = none) : s.holdings = [] := by
  have hrenewals := h.renewals
  rw [hg] at hrenewals
  exact List.map_eq_nil_iff.1 hrenewals

theorem set_sole {candidates : List Candidate} (h : candidates = [c]) (c' : Candidate) :
    candidates.set 0 c' = [c'] := by
  rw [h]
  rfl

/-- A renewal that moves on is an event. -/
theorem Lived.setRenewal (h : w.Lived e) (hc : w.candidate? i = some c) (hg : c.guard = some g)
    (hruns : g.renewal.isOver = false) (stimulus : Stimulus) (due : Option Nat) {r : Renewal}
    (hr : r = g.renewal.stir c.elector stimulus) (hcandidates : w'.candidates = w.candidates)
    (hleadership : w'.leadership = w.leadership) : (w'.setRenewal i c g r due).Lived e := by
  refine h.goOn hc (c.renewed g r due) [.renew 0 stimulus] (by cases r <;> rfl) ?_
  rintro rfl s hshows
  obtain ⟨gaveUp, hholdings⟩ := hshows.holdings_eq hg
  have hafter : s.after c.elector (.renew 0 stimulus) = s.settle 0 ⟨g.renewal, gaveUp⟩ r := by
    simp [Standing.after, hholdings, hruns, hr]
  have hsole := hcandidates.trans hshows.sole
  rw [List.foldl_cons, List.foldl_nil, hafter]
  cases r with
  | lost time =>
    exact ⟨set_sole hsole _, rfl, rfl, by simp [Standing.settle, hholdings, Candidate.renewed]⟩
  | resting | attempting | crashed | stopped =>
    exact ⟨set_sole hsole _, hshows.isLeader, hshows.recorded.trans hleadership.symm,
      by simp [Standing.settle, hholdings, Candidate.renewed]⟩

/-- The steps of a renewal are events, or none. -/
theorem Renews.lived (hrenews : w.Renews i w') (h : w.Lived e) : w'.Lived e := by
  cases hrenews with
  | idle => exact h
  | @begin c g last wake hc hg hr hwake =>
    exact h.setRenewal hc hg (by rw [hr]; rfl) (.rise w.time w.now) none (by rw [hr]; rfl) rfl rfl
  | @send c g last deadline a w' due hc hg hr hsends =>
    -- A request that is pending changes neither the flag nor the renewals.
    refine h.goOn hc (c.renewed g g.renewal (some due)) [] (by rw [hr]; rfl) ?_
    rintro rfl s hshows
    rw [hr]
    refine ⟨set_sole (hsends.candidates.trans hshows.sole) _, hshows.isLeader,
      hshows.recorded.trans hsends.leadership.symm, ?_⟩
    simpa [hg, hr, Candidate.renewed] using hshows.renewals
  | @hear c g last deadline a w' answer hc hg hr hhears =>
    exact h.setRenewal hc hg (by rw [hr]; rfl) (.hear w.time answer) none (by rw [hr]; rfl)
      hhears.candidates hhears.leadership
  | @giveUp c g last deadline a hc hg hr hlate =>
    exact h.setRenewal hc hg (by rw [hr]; rfl) (.tire w.time) none rfl rfl rfl

theorem Lived.renewAll (h : w.Lived e) : w.renewAll.Lived e :=
  renewAll_induction (fun h hrenews => hrenews.lived h) h

/-- The lease is gained, and an earlier guard is dropped. -/
theorem Lived.acquired (h : w.Lived e) (hc : w.candidate? i = some c) :
    (w.acquired i c).Lived e := by
  let c' : Candidate :=
    { c with
      isLeader := c.guard.isNone
      guard := some ⟨.start c.elector.timing w.time, none, false⟩ }
  cases hg : c.guard with
  | none =>
    refine h.goOn hc c' [.gain w.time] rfl ?_
    rintro rfl s hshows
    refine ⟨set_sole hshows.sole _, ?_, ?_, ?_⟩
    · simp [c', Standing.after, Standing.gain, hg]
    · simp [Standing.after, Standing.gain, World.acquired, hg]
    · simp [c', Standing.after, Standing.gain, hshows.holdings_eq_nil hg]
  | some g =>
    refine h.goOn hc c' [.gain w.time, .drop 0] rfl ?_
    rintro rfl s hshows
    obtain ⟨gaveUp, hholdings⟩ := hshows.holdings_eq hg
    refine ⟨set_sole hshows.sole _, ?_, ?_, ?_⟩
    · simp [c', Standing.after, Standing.gain, Standing.drop, hg]
    · simp [Standing.after, Standing.gain, Standing.drop, World.acquired, hg]
    · simp [c', Standing.after, Standing.gain, Standing.drop, hholdings]

theorem Lived.dropGuard (h : w.Lived e) (i : Nat) : (w.dropGuard i).Lived e := by
  unfold World.dropGuard
  split
  · rename_i c hc
    split_ifs with hguard
    · obtain ⟨g, hg⟩ := Option.isSome_iff_exists.1 hguard
      refine h.goOn hc { c with isLeader := false, guard := none } [.drop 0] rfl ?_
      rintro rfl s hshows
      obtain ⟨gaveUp, hholdings⟩ := hshows.holdings_eq hg
      refine ⟨set_sole hshows.sole _, ?_, ?_, ?_⟩
      all_goals simp [Standing.after, Standing.drop, hholdings]
    · exact h
  · exact h

/-- A guard that is changed otherwise changes neither the flag nor what was recorded. -/
theorem Lived.setGuard (h : w.Lived e) (hc : w.candidate? i = some c) (hg : c.guard = some g)
    (event : Standing.Event) {g' : Guard}
    (hevent : ∀ (s : Standing) (gaveUp : Bool), s.holdings = [⟨g.renewal, gaveUp⟩] →
      s.after c.elector event = { s with holdings := [⟨g'.renewal, gaveUp⟩] }) :
    (w.setCandidate i { c with guard := some g' }).Lived e := by
  refine h.goOn hc { c with guard := some g' } [event] rfl ?_
  rintro rfl s hshows
  obtain ⟨gaveUp, hholdings⟩ := hshows.holdings_eq hg
  rw [List.foldl_cons, List.foldl_nil, hevent s gaveUp hholdings]
  exact ⟨set_sole hshows.sole _, hshows.isLeader, hshows.recorded, rfl⟩

/-- The renewals of a candidate stop before it gives its lease back. -/
theorem Lived.beginRelease (h : w.Lived e) {activity : Activity}
    (hbegin : w.beginRelease i = some (w', activity)) : w'.Lived e := by
  obtain ⟨c, g, hc, hg, -, rfl⟩ := beginRelease_cases hbegin
  exact h.setGuard hc hg (.stop 0) fun s gaveUp hholdings => by
    simp [Standing.after, hholdings]

/-! ### Activities -/

theorem Lived.acquireAnswer (h : w.Lived e) (hc : w.candidate? i = some c) (deadline : Option Nat)
    (a : Attempt) (answer : LeaseAnswer) : (w.acquireAnswer i deadline c a answer).1.Lived e := by
  unfold World.acquireAnswer
  rcases a.receive c.elector answer with a' | (hold | refusal | error | crash)
  · exact h
  · exact h.acquired hc
  · exact h
  · exact h
  · exact h

theorem Lived.releaseAnswer (h : w.Lived e) (i : Nat) (c : Candidate) (release : Release)
    (answer : LeaseAnswer) : (w.releaseAnswer i c release answer).1.Lived e := by
  unfold World.releaseAnswer
  split
  · exact h
  · exact h.dropGuard i

theorem Lived.advance (h : w.Lived e) (activity : Activity) : (w.advance activity).1.Lived e := by
  unfold World.advance
  cases activity with
  | sleeping wake => exact h
  | awaitingLoss index deadline =>
    dsimp only
    split
    · rename_i c g hcg
      split_ifs
      · obtain ⟨c', hc, hg⟩ := Option.bind_eq_some_iff.1 hcg
        obtain ⟨g', hg, heq⟩ := Option.map_eq_some_iff.1 hg
        cases heq
        exact h.setGuard hc hg (.seeLoss 0) fun s gaveUp hholdings => by
          simp [Standing.after, ← hholdings]
      all_goals exact h
    · exact h
  | acquiring index deadline phase =>
    rcases hc : w.candidate? index with _ | c
    · simp only [hc]
      exact h
    · simp only [hc]
      rcases phase with ⟨a, _ | due⟩ | ⟨wake, verdict⟩
      · exact h
      · by_cases hdue : due ≤ w.time
        · have hanswered : (w.answer a.call).1.Lived e := h.congr rfl rfl
          have hnext := hanswered.acquireAnswer hc deadline a (w.answer a.call).2
          simp only [if_pos hdue]
          split
          · exact hnext
          · exact hnext
        · simp only [if_neg hdue]
          exact h
      · by_cases hwake : wake ≤ w.time
        · simp only [if_pos hwake]
          exact h
        · simp only [if_neg hwake]
          exact h
  | releasing index release due =>
    dsimp only
    split
    · rename_i c due hc
      split_ifs
      · have hanswered : (w.answer release.call).1.Lived e := h.congr rfl rfl
        exact hanswered.releaseAnswer index c release (w.answer release.call).2
      · exact h
    · exact h
    · exact h

theorem Lived.sendActivity (h : w.Lived e) {activity : Activity} {r : World × Progress}
    (hsend : w.sendActivity activity = some r) : r.1.Lived e := by
  unfold World.sendActivity at hsend
  split at hsend
  · rename_i index deadline a
    obtain ⟨c, hc, rfl⟩ := Option.map_eq_some_iff.1 hsend
    rcases w.send_cases c.elector a.call with
      ⟨w₁, answer, hsend, hhears⟩ | ⟨w₁, due, hsend, hsends⟩
    · have hheard : w₁.Lived e := h.congr hhears.candidates hhears.leadership
      rw [hsend]
      exact hheard.acquireAnswer (by rwa [candidate?, hhears.candidates]) deadline a answer
    · rw [hsend]
      exact h.congr hsends.candidates hsends.leadership
  · rename_i index release
    obtain ⟨c, hc, rfl⟩ := Option.map_eq_some_iff.1 hsend
    rcases w.send_cases c.elector release.call with
      ⟨w₁, answer, hsend, hhears⟩ | ⟨w₁, due, hsend, hsends⟩
    · have hheard : w₁.Lived e := h.congr hhears.candidates hhears.leadership
      rw [hsend]
      exact hheard.releaseAnswer index c release answer
    · rw [hsend]
      exact h.congr hsends.candidates hsends.leadership
  · cases hsend

/-- **An activity is a sequence of events.** -/
theorem Lived.runActivity (h : w.Lived e) (activity : Activity) (steps : Nat) :
    (w.runActivity activity steps).1.Lived e := by
  induction steps generalizing w activity with
  | zero => exact h
  | succ steps ih =>
    unfold World.runActivity
    have hadvance := h.advance activity
    rcases hw : w.advance activity with ⟨w₁, activity₁ | outcome⟩
    · rw [hw] at hadvance
      have hrenew : w₁.renewAll.Lived e := hadvance.renewAll
      rcases hsend : w₁.renewAll.sendActivity activity₁ with _ | ⟨w₂, activity₂ | outcome⟩
      · have hagain := hrenew.advance activity₁
        rcases hw₂ : w₁.renewAll.advance activity₁ with ⟨w₂, activity₂ | outcome⟩
        · rw [hw₂] at hagain
          simp only [hsend, hw₂]
          split
          · exact hagain
          · have hpassed : ∀ time, Lived e { w₂ with time := time } := fun _ => hagain.congr rfl rfl
            exact ih (hpassed _) activity₂
        · rw [hw₂] at hagain
          simp only [hsend, hw₂]
          exact hagain
      · simp only [hsend]
        exact ih (hrenew.sendActivity hsend) activity₂
      · simp only [hsend]
        exact hrenew.sendActivity hsend
    · rw [hw] at hadvance
      exact hadvance

/-! ### Commands -/

/-- **A command is a sequence of events.** -/
theorem Lived.obey (h : w.Lived e) {command : Command} {outcome : Option Outcome}
    (hobey : w.obey? command = some (w', outcome)) : w'.Lived e := by
  cases command with
  | acquire index timeout =>
    obtain rfl : (w.acquire index timeout).1 = w' := congrArg Prod.fst (Option.some.inj hobey)
    exact h.runActivity _ _
  | awaitLoss index timeout =>
    obtain rfl : (w.awaitLoss index timeout).1 = w' := congrArg Prod.fst (Option.some.inj hobey)
    exact h.runActivity _ _
  | release index =>
    obtain rfl : (w.release index).1 = w' := congrArg Prod.fst (Option.some.inj hobey)
    unfold World.release
    split
    · rename_i w₁ activity hbegin
      exact (h.beginRelease hbegin).runActivity _ _
    · exact h
  | dropGuard index =>
    cases hobey
    exact h.dropGuard index
  | sleep duration =>
    obtain rfl : (w.sleep duration).1 = w' := congrArg Prod.fst (Option.some.inj hobey)
    exact h.runActivity _ _
  | update change =>
    obtain ⟨store, -, heq⟩ := Option.map_eq_some_iff.1 hobey
    cases heq
    exact h.congr rfl rfl
  | delete | plan | setUnavailable =>
    cases hobey
    exact h.congr rfl rfl

/-- The world after a list of commands, if all of them can be obeyed. -/
def obeyAll? (w : World) : List Command → Option World
  | [] => some w
  | command :: commands => (w.obey? command).bind fun r => r.1.obeyAll? commands

theorem Lived.obeyAll (h : w.Lived e) {commands : List Command}
    (hobey : w.obeyAll? commands = some w') : w'.Lived e := by
  induction commands generalizing w with
  | nil =>
    cases hobey
    exact h
  | cons command commands ih =>
    obtain ⟨⟨w₁, outcome⟩, hfirst, hrest⟩ := Option.bind_eq_some_iff.1 hobey
    exact ih (h.obey hfirst) hrest

/-- **The flag of an elector.** After every sequence of events a flag that is set is true, and what
was recorded is the flag. The flag is true after every event exactly where no guard is dropped or
gives up while another one leads. Whatever is asked of a world with one elector is such a sequence.
-/
theorem flag_truthful_iff (e : Elector) :
    (∀ events, (Standing.run e events).Sound ∧
      ((∀ before, before <+: events → (Standing.run e before).Truthful) ↔
        ∀ before event, before ++ [event] <+: events → (Standing.run e before).Ends e event →
          ¬ (Standing.run e (before ++ [event])).Led)) ∧
      ∀ clock server connected commands w,
        (initial clock server connected [e]).obeyAll? commands = some w → w.Lived e :=
  ⟨fun events => ⟨Standing.sound_run e events, Standing.truthful_run_iff e events⟩,
    fun clock server connected _ _ hobey => (lived_initial clock server connected e).obeyAll hobey⟩

/-- What is asked of an elector that loses the leadership and gains it again. -/
def regaining : List Command :=
  [.acquire 0 (5 * Timing.perSecond), .setUnavailable true, .awaitLoss 0 (60 * Timing.perSecond),
    .setUnavailable false, .acquire 0 (5 * Timing.perSecond)]

/-- **A leader that does not show it**: an elector that lost the leadership and gained it again has
a guard whose renewals go on, but its flag is cleared, as the lost guard was dropped after that. -/
theorem regained_leadership_not_shown :
    ∃ e w c g,
      (initial (Lease.Instant.after 0) ⟨.empty, [], false, false⟩ true [e]).obeyAll? regaining =
        some w ∧
      w.candidates = [c] ∧ c.guard = some g ∧ g.renewal.isOver = false ∧ c.isLeader = false ∧
      w.leadership = some false := by
  let e : Elector := ⟨"me", Elector.standardLease, "release-system", .standard⟩
  have hshown : ((initial (Lease.Instant.after 0) ⟨.empty, [], false, false⟩ true [e]).obeyAll?
      regaining).map (fun w =>
        (w.candidates.map fun c => (c.isLeader, c.guard.map (·.renewal.isOver)), w.leadership)) =
      some ([(false, some false)], some false) := by
    decide +kernel
  obtain ⟨w, hw, heq⟩ := Option.map_eq_some_iff.1 hshown
  obtain ⟨hcandidates, hleadership⟩ := Prod.mk.inj heq
  obtain ⟨c, hc, heq⟩ := List.map_eq_singleton_iff.1 hcandidates
  obtain ⟨hleader, hguard⟩ := Prod.mk.inj heq
  obtain ⟨g, hg, hover⟩ := Option.map_eq_some_iff.1 hguard
  exact ⟨e, w, c, g, hw, hc, hg, hover, hleader, hleadership⟩

end World

end ControllerManager.Simulation
