import ControllerManager.Proofs.Election.Candidacy
import ControllerManager.Simulation.Command

/-!
# Candidacies in a world

Each candidate of a world goes through a candidacy: whatever an observer asks for, the leadership
and the renewals of every candidate are those of some candidacy that its elector can reach at the
time of the world. What holds of all candidacies therefore holds in all worlds.

## Main definitions

* `Simulation.Candidate.Mirrors` — a candidate stands for a candidacy.
* `Simulation.Activity.Pursues` — the acquisition that an activity makes.
* `Simulation.World.Faithful` — every candidate stands for a candidacy.
* `Simulation.World.Visited` — the worlds that an observer can bring about.

## Main results

* `Simulation.World.Faithful.runActivity` — an activity keeps a world faithful.
* `Simulation.World.Faithful.obey` — so does a command.
* `Simulation.World.Visited.faithful` — every world that an observer brings about is faithful.
* `Simulation.World.Visited.le_reach` — in every world, no leader goes on for longer than its reach.
-/

namespace ControllerManager.Simulation

open Cluster Election

/-- A candidate stands for a candidacy at a time. -/
structure Candidate.Mirrors (c : Candidate) (time : Nat) (k : Candidacy) : Prop where
  reachable : k.Reachable c.elector time
  isLeader : k.isLeader = c.isLeader
  renewal : k.renewal = c.guard.map Guard.renewal

theorem Candidate.Mirrors.renewal_eq {c : Candidate} {time : Nat} {k : Candidacy}
    (h : c.Mirrors time k) {g : Guard} (hg : c.guard = some g) : k.renewal = some g.renewal := by
  rw [h.renewal, hg]
  rfl

/-- The acquisition of the candidate of an index while an activity goes on. -/
def Activity.Pursues (activity : Activity) (i : Nat) (p : Option Pursuit) : Prop :=
  match activity with
  | .acquiring index _ (.attempting a _) =>
    if i = index then ∃ began, p = some (.attempting began a) else p = none
  | .acquiring index _ (.pausing wake _) =>
    if i = index then p = some (.pausing wake) else p = none
  | _ => p = none

/-- The acquisition of the candidate of an index after progress was made. -/
def Progress.Pursues (progress : Progress) (i : Nat) (p : Option Pursuit) : Prop :=
  match progress with
  | .inl activity => activity.Pursues i p
  | .inr _ => p = none

namespace World

/-- Every candidate stands for a candidacy, with an acquisition of that kind. -/
def Faithful (w : World) (pursues : Nat → Option Pursuit → Prop) : Prop :=
  ∀ i c, w.candidate? i = some c → ∃ k, c.Mirrors w.time k ∧ pursues i k.pursuit

/-- No candidate acquires anything. -/
def Idle (_ : Nat) (p : Option Pursuit) : Prop := p = none

variable {w w' : World} {pursues pursues' : Nat → Option Pursuit → Prop} {i : Nat}
  {c c' : Candidate}

theorem Faithful.congr (h : w.Faithful pursues) (hcandidates : w'.candidates = w.candidates)
    (htime : w'.time = w.time) : w'.Faithful pursues := by
  intro i c hc
  rw [htime]
  exact h i c (by rwa [candidate?, ← hcandidates])

/-- A candidate that makes a move, while the others go on as before. -/
theorem Faithful.setCandidate (h : w.Faithful pursues) (hc : w.candidate? i = some c)
    (hmove : ∀ k, c.Mirrors w.time k → pursues i k.pursuit →
      ∃ k', c'.Mirrors w.time k' ∧ pursues' i k'.pursuit)
    (hothers : ∀ j p, j ≠ i → pursues j p → pursues' j p) :
    (w.setCandidate i c').Faithful pursues' := by
  intro j d hd
  by_cases hji : j = i
  · subst hji
    obtain ⟨k, hk, hp⟩ := h j c hc
    have hlt : j < w.candidates.length := (List.getElem?_eq_some_iff.1 hc).1
    have hd : some c' = some d := by
      rw [← hd]
      simp [candidate?, World.setCandidate, List.getElem?_set_self hlt]
    cases hd
    exact hmove k hk hp
  · have hd : w.candidate? j = some d := by
      rw [← hd]
      simp [candidate?, World.setCandidate, List.getElem?_set_ne (Ne.symm hji)]
    obtain ⟨k, hk, hp⟩ := h j d hd
    exact ⟨k, hk, hothers j _ hji hp⟩

/-! ### Renewals -/

/-- An elector can move so that its renewals are `r`, and its acquisition goes on. -/
def CanSettle (e : Elector) (time : Nat) (k : Candidacy) (r : Renewal) : Prop :=
  ∃ k' : Candidacy, k'.Reachable e time ∧ k'.isLeader = (k.settle r).isLeader ∧
    k'.renewal = some r ∧ k'.pursuit = k.pursuit

section Moves

variable {e : Elector} {time last deadline : Nat} {k : Candidacy} {a : Attempt}

theorem canSettle_begin {wake : Nat} (hk : k.Reachable e time)
    (hr : k.renewal = some (.resting last wake)) (hwake : wake ≤ time) (now : Lease.Instant) :
    CanSettle e time k (.begin e.timing last time now) := by
  rcases Nat.lt_or_ge (time - last) e.timing.renewDeadline with hroom | hover
  · exact ⟨_, hk.move (.rise hr hwake hroom), rfl, rfl, rfl⟩
  · exact ⟨_, hk.move (.expire hr hwake hover), rfl, rfl, rfl⟩

theorem canSettle_receive (hk : k.Reachable e time)
    (hr : k.renewal = some (.attempting last deadline a)) (answer : LeaseAnswer) :
    CanSettle e time k (.receive e time answer (.attempting last deadline a)) :=
  ⟨_, hk.move (.renew hr), rfl, rfl, rfl⟩

theorem canSettle_giveUp (hk : k.Reachable e time)
    (hr : k.renewal = some (.attempting last deadline a)) (hdue : deadline ≤ time) :
    CanSettle e time k (.giveUp e.timing time (.attempting last deadline a)) :=
  ⟨_, hk.move (.giveUp hr hdue), rfl, rfl, rfl⟩

/-- An attempt that goes on changes nothing. -/
theorem canSettle_attempting (hk : k.Reachable e time)
    (hr : k.renewal = some (.attempting last deadline a)) :
    CanSettle e time k (.attempting last deadline a) :=
  ⟨k, hk, rfl, hr, rfl⟩

end Moves

/-- The renewal of a candidate that makes a move. -/
theorem Faithful.setRenewal (h : w.Faithful pursues) (hc : w.candidate? i = some c) {g : Guard}
    (hg : c.guard = some g) {r : Renewal} (due : Option Nat)
    (hmove : ∀ k : Candidacy, k.Reachable c.elector w.time → k.renewal = some g.renewal →
      CanSettle c.elector w.time k r) :
    (w.setRenewal i c g r due).Faithful pursues := by
  have hset : ∀ leader,
      (∀ k : Candidacy, k.isLeader = c.isLeader → (k.settle r).isLeader = leader) →
      (w.setCandidate i { c with
        guard := some { g with renewal := r, due := due }
        isLeader := leader }).Faithful pursues := by
    intro leader hsettle
    refine h.setCandidate hc (fun k hk hp => ?_) fun _ _ _ hp => hp
    obtain ⟨k', hreachable, hleader, hrenewal, hpursuit⟩ :=
      hmove k hk.reachable (hk.renewal_eq hg)
    exact ⟨k', ⟨hreachable, hleader.trans (hsettle k hk.isLeader), hrenewal⟩, hpursuit ▸ hp⟩
  cases r with
  | lost lost => exact (hset false fun _ _ => rfl).congr rfl rfl
  | resting | attempting | crashed | stopped => exact hset c.isLeader fun _ hk => hk

theorem Faithful.wake (h : w.Faithful pursues) (i : Nat) : (w.wake i).Faithful pursues := by
  unfold World.wake
  split
  · rename_i c hc
    split
    · rename_i g hg
      split
      · rename_i last wake hr
        split_ifs with hwake
        · refine h.setRenewal hc hg none fun k hk hrenewal => ?_
          exact canSettle_begin hk (hr ▸ hrenewal) hwake w.now
        · exact h
      · rename_i last deadline a hr
        split
        · rename_i due hdue
          split_ifs with hanswered hover
          · have hanswer : (w.answer a.call).1.Faithful pursues := h.congr rfl rfl
            refine hanswer.setRenewal hc hg none fun k hk hrenewal => ?_
            exact canSettle_receive hk (hr ▸ hrenewal) _
          · refine h.setRenewal hc hg none fun k hk hrenewal => ?_
            rw [hr]
            exact canSettle_giveUp hk (hr ▸ hrenewal) hover
          · exact h
        · exact h
      · exact h
    · exact h
  · exact h

/-- A request changes neither the candidates nor the time. -/
theorem send_candidates (w : World) (e : Elector) (call : LeaseCall) :
    (w.send e call).1.candidates = w.candidates ∧ (w.send e call).1.time = w.time := by
  unfold World.send
  split
  · exact ⟨rfl, rfl⟩
  · dsimp only
    split_ifs <;> exact ⟨rfl, rfl⟩

theorem Faithful.sendRenewal (h : w.Faithful pursues) (i : Nat) :
    (w.sendRenewal i).Faithful pursues := by
  unfold World.sendRenewal
  split
  · rename_i c hc
    split
    · rename_i g hg
      split
      · rename_i last deadline a hr hdue
        obtain ⟨hcandidates, htime⟩ := w.send_candidates c.elector a.call
        have hsent := h.congr hcandidates htime
        have hc' : (w.send c.elector a.call).1.candidate? i = some c := by
          rwa [candidate?, hcandidates]
        rcases hsend : w.send c.elector a.call with ⟨w', sending⟩
        rw [hsend] at hsent hc'
        cases sending with
        | pending due =>
          refine hsent.setRenewal hc' hg (some due) fun k hk hrenewal => ?_
          rw [hr] at hrenewal ⊢
          exact canSettle_attempting hk hrenewal
        | answered answer =>
          refine hsent.setRenewal hc' hg none fun k hk hrenewal => ?_
          exact canSettle_receive hk (hr ▸ hrenewal) answer
      · exact h
    · exact h
  · exact h

theorem Faithful.sendRounds (h : w.Faithful pursues) (rounds : Nat) :
    (w.sendRounds rounds).Faithful pursues := by
  induction rounds generalizing w with
  | zero => exact h
  | succ rounds ih =>
    unfold World.sendRounds
    split
    · exact h
    · exact ih (List.foldlRecOn (motive := fun w => Faithful w pursues) _ _ h
        fun _ hw i _ => hw.sendRenewal i)

theorem Faithful.renewAll (h : w.Faithful pursues) : w.renewAll.Faithful pursues :=
  Faithful.sendRounds (List.foldlRecOn (motive := fun w => Faithful w pursues) _ _ h
    fun _ hw i _ => hw.wake i) 2

/-! ### Activities -/

/-- Whoever gives up an acquisition is idle. -/
theorem Faithful.idle (h : w.Faithful pursues) : w.Faithful Idle := by
  intro i c hc
  obtain ⟨k, hk, -⟩ := h i c hc
  exact ⟨_, ⟨hk.reachable.move .withdraw, hk.isLeader, hk.renewal⟩, rfl⟩

theorem Faithful.dropGuard (h : w.Faithful pursues) (i : Nat) :
    (w.dropGuard i).Faithful pursues := by
  unfold World.dropGuard
  split
  · rename_i c hc
    split_ifs with hguard
    · have hset : (w.setCandidate i { c with isLeader := false, guard := none }).Faithful
          pursues :=
        h.setCandidate hc (fun k hk hp => ⟨_, ⟨hk.reachable.move .drop, rfl, rfl⟩, hp⟩)
          fun _ _ _ hp => hp
      exact hset.congr rfl rfl
    · exact h
  · exact h

/-- Nobody but the candidate of an acquisition pursues anything. -/
theorem pursues_of_ne {index j : Nat} {deadline : Option Nat} {phase : AcquirePhase}
    {p : Option Pursuit} (hj : j ≠ index) :
    (Activity.acquiring index deadline phase).Pursues j p ↔ p = none := by
  cases phase <;> simp [Activity.Pursues, hj]

/-- An acquisition that moves on to another phase. -/
theorem Faithful.moveOn {index : Nat} {deadline : Option Nat} {phase phase' : AcquirePhase}
    (h : w.Faithful (Activity.acquiring index deadline phase).Pursues)
    (hc : w.candidate? index = some c)
    (hmove : ∀ k : Candidacy, k.Reachable c.elector w.time →
      (Activity.acquiring index deadline phase).Pursues index k.pursuit →
      ∃ p, Candidacy.Reachable c.elector w.time { k with pursuit := p } ∧
        (Activity.acquiring index deadline phase').Pursues index p) :
    w.Faithful (Activity.acquiring index deadline phase').Pursues := by
  intro j d hd
  obtain ⟨k, hk, hp⟩ := h j d hd
  by_cases hj : j = index
  · subst hj
    obtain rfl : d = c := Option.some.inj (hd.symm.trans hc)
    obtain ⟨p, hreachable, hp'⟩ := hmove k hk.reachable hp
    exact ⟨_, ⟨hreachable, hk.isLeader, hk.renewal⟩, hp'⟩
  · exact ⟨k, hk, (pursues_of_ne hj).2 ((pursues_of_ne hj).1 hp)⟩

theorem Faithful.acquireAnswer {index : Nat} {deadline due : Option Nat} {a : Attempt}
    (h : w.Faithful (Activity.acquiring index deadline (.attempting a due)).Pursues)
    (hc : w.candidate? index = some c) (answer : LeaseAnswer) :
    (w.acquireAnswer index deadline c a answer).1.Faithful
      (Progress.Pursues (w.acquireAnswer index deadline c a answer).2) := by
  have hlearn : ∀ k : Candidacy, k.Reachable c.elector w.time →
      (Activity.acquiring index deadline (.attempting a due)).Pursues index k.pursuit →
      ∃ began, Candidacy.Reachable c.elector w.time
        (k.pursue c.elector w.time began (a.receive c.elector answer)) := by
    intro k hk hp
    obtain ⟨began, hp⟩ : ∃ began, k.pursuit = some (.attempting began a) := by
      simpa [Activity.Pursues] using hp
    exact ⟨began, hk.move (.learn hp)⟩
  have hpause : ∀ verdict, (∀ k : Candidacy, k.Reachable c.elector w.time →
      (Activity.acquiring index deadline (.attempting a due)).Pursues index k.pursuit →
      Candidacy.Reachable c.elector w.time
        { k with pursuit := some (.pausing (w.time + c.elector.timing.retryInterval)) }) →
      w.Faithful (Activity.acquiring index deadline
        (.pausing (w.time + c.elector.timing.retryInterval) verdict)).Pursues :=
    fun verdict hreachable => h.moveOn hc fun k hk hp =>
      ⟨_, hreachable k hk hp, by simp [Activity.Pursues]⟩
  unfold World.acquireAnswer World.acquireVerdict
  rcases hnext : a.receive c.elector answer with a' | (hold | refusal | error | crash) <;>
    rw [hnext] at hlearn
  · show w.Faithful (Activity.acquiring index deadline (.attempting a' none)).Pursues
    refine h.moveOn hc fun k hk hp => ?_
    obtain ⟨began, hreachable⟩ := hlearn k hk hp
    exact ⟨some (.attempting began a'), hreachable, by simp [Activity.Pursues]⟩
  · show (w.acquired index c).Faithful Idle
    have hset : (w.setCandidate index { c with
        isLeader := c.guard.isNone
        guard := some ⟨.start c.elector.timing w.time, none, false⟩ }).Faithful Idle := by
      refine h.setCandidate hc (fun k hk hp => ?_) fun j p hj hp => (pursues_of_ne hj).1 hp
      obtain ⟨began, hreachable⟩ := hlearn k hk.reachable hp
      refine ⟨_, ⟨hreachable, ?_, rfl⟩, rfl⟩
      show k.renewal.isNone = c.guard.isNone
      rw [hk.renewal, Option.isNone_map]
    exact hset.congr rfl rfl
  · exact hpause (.refused refusal) fun k hk hp => (hlearn k hk hp).elim fun _ hlearned => hlearned
  · exact hpause (.failed error) fun k hk hp => (hlearn k hk hp).elim fun _ hlearned => hlearned
  · exact h.idle

theorem Faithful.releaseAnswer (h : w.Faithful Idle) (index : Nat) (c : Candidate)
    (release : Release) (answer : LeaseAnswer) :
    (w.releaseAnswer index c release answer).1.Faithful
      (Progress.Pursues (w.releaseAnswer index c release answer).2) := by
  unfold World.releaseAnswer
  split
  · exact h
  · exact h.dropGuard index

/-- Whoever gives an acquisition up at its deadline is idle. -/
theorem Faithful.unlessOverdue {activity : Activity} (h : w.Faithful activity.Pursues)
    (deadline : Option Nat) :
    w.Faithful (Progress.Pursues
      (if w.isOverdue deadline then .inr .timedOut else .inl activity)) := by
  split_ifs
  · exact h.idle
  · exact h

theorem Faithful.advanceAcquisition {index : Nat} {deadline : Option Nat} {phase : AcquirePhase}
    (h : w.Faithful (Activity.acquiring index deadline phase).Pursues) :
    (w.advance (.acquiring index deadline phase)).1.Faithful
      (Progress.Pursues (w.advance (.acquiring index deadline phase)).2) := by
  unfold World.advance
  rcases hc : w.candidate? index with _ | c
  · simp only [hc]
    exact h.idle
  · simp only [hc]
    rcases phase with ⟨a, _ | due⟩ | ⟨wake, verdict⟩
    · exact h.unlessOverdue deadline
    · by_cases hdue : due ≤ w.time
      · have hanswered : (w.answer a.call).1.Faithful
            (Activity.acquiring index deadline (.attempting a (some due))).Pursues :=
          h.congr rfl rfl
        have hnext := hanswered.acquireAnswer hc (w.answer a.call).2
        simp only [if_pos hdue]
        rcases hanswer : (w.answer a.call).1.acquireAnswer index deadline c a (w.answer a.call).2
          with ⟨w', activity | outcome⟩
        · rw [hanswer] at hnext
          exact Faithful.unlessOverdue hnext deadline
        · rw [hanswer] at hnext
          exact hnext
      · simp only [if_neg hdue]
        exact h.unlessOverdue deadline
    · by_cases hwake : wake ≤ w.time
      · have hretry : w.Faithful (Activity.acquiring index deadline
            (.attempting (.reading w.now) none)).Pursues := by
          refine h.moveOn hc fun k hk hp => ?_
          have hpause : k.pursuit = some (.pausing wake) := by simpa [Activity.Pursues] using hp
          have hstep : Candidacy.Step c.elector w.time (.begin w.now) k _ := .retry hpause hwake
          exact ⟨_, hk.move hstep, by simp [Activity.Pursues]⟩
        simp only [if_pos hwake]
        exact hretry.unlessOverdue deadline
      · simp only [if_neg hwake]
        exact h.unlessOverdue deadline

/-- What an activity does at an instant keeps a world faithful. -/
theorem Faithful.advance {activity : Activity} (h : w.Faithful activity.Pursues) :
    (w.advance activity).1.Faithful (Progress.Pursues (w.advance activity).2) := by
  cases activity with
  | acquiring index deadline phase => exact h.advanceAcquisition
  | sleeping wake =>
    unfold World.advance
    dsimp only
    split_ifs
    · exact h
    · exact h
  | awaitingLoss index deadline =>
    unfold World.advance
    dsimp only
    split
    · rename_i c g hcg
      split_ifs
      · obtain ⟨c', hc, hg⟩ := Option.bind_eq_some_iff.1 hcg
        obtain ⟨g', hg, heq⟩ := Option.map_eq_some_iff.1 hg
        cases heq
        refine h.setCandidate hc (fun k hk hp => ?_) fun _ _ _ hp => hp
        have hrenewal : k.renewal = some g.renewal := hk.renewal_eq hg
        exact ⟨k, ⟨hk.reachable, hk.isLeader, hrenewal⟩, hp⟩
      · exact h
      · exact h
    · split_ifs
      · exact h
      · exact h
  | releasing index release due =>
    unfold World.advance
    dsimp only
    split
    · rename_i c due hc
      split_ifs
      · have hanswered : (w.answer release.call).1.Faithful Idle := h.congr rfl rfl
        exact hanswered.releaseAnswer index c release (w.answer release.call).2
      · exact h
    · exact h
    · exact h

theorem Faithful.sendActivity {activity : Activity} (h : w.Faithful activity.Pursues)
    {r : World × Progress} (hsend : w.sendActivity activity = some r) :
    r.1.Faithful (Progress.Pursues r.2) := by
  unfold World.sendActivity at hsend
  split at hsend
  · rename_i index deadline a
    obtain ⟨c, hc, rfl⟩ := Option.map_eq_some_iff.1 hsend
    obtain ⟨hcandidates, htime⟩ := w.send_candidates c.elector a.call
    have hsent := h.congr hcandidates htime
    have hc' : (w.send c.elector a.call).1.candidate? index = some c := by
      rwa [candidate?, hcandidates]
    rcases hcall : w.send c.elector a.call with ⟨w', answer | due⟩
    · rw [hcall] at hsent hc'
      exact hsent.acquireAnswer hc' answer
    · rw [hcall] at hsent
      exact hsent
  · rename_i index release
    obtain ⟨c, hc, rfl⟩ := Option.map_eq_some_iff.1 hsend
    obtain ⟨hcandidates, htime⟩ := w.send_candidates c.elector release.call
    have hsent := h.congr hcandidates htime
    rcases hcall : w.send c.elector release.call with ⟨w', answer | due⟩
    · rw [hcall] at hsent
      exact hsent.releaseAnswer index c release answer
    · rw [hcall] at hsent
      exact hsent
  · cases hsend

/-! ### Time -/

/-- No renewal has anything to do before its timer. -/
theorem patient_of_le_nextTime {g : Guard} {time : Nat}
    (hnext : ∀ next, Guard.nextTime g = some next → time ≤ next) : g.renewal.Patient time := by
  unfold Guard.nextTime at hnext
  cases hr : g.renewal with
  | resting last wake =>
    rw [hr] at hnext
    exact hnext wake rfl
  | attempting last deadline a =>
    rw [hr] at hnext
    have hle := hnext _ rfl
    show time ≤ deadline
    cases hdue : g.due with
    | none => simpa [hdue] using hle
    | some due =>
      simp only [hdue, Option.map_some, Option.getD_some] at hle
      omega
  | lost | crashed | stopped => trivial

/-- The timer of the renewals of a candidate has not passed yet. -/
theorem Faithful.patient (h : w.Faithful pursues) (hc : w.candidate? i = some c) {g : Guard}
    (hg : c.guard = some g) : g.renewal.Patient w.time := by
  obtain ⟨k, hk, -⟩ := h i c hc
  obtain ⟨span, -, -, -, htimely⟩ := hk.reachable.timely.renewal _ (hk.renewal_eq hg)
  cases hr : g.renewal with
  | resting last wake =>
    rw [hr] at htimely
    exact htimely.2.2.2
  | attempting last deadline a =>
    rw [hr] at htimely
    exact htimely.2.2.2
  | lost | crashed | stopped => trivial

theorem patient_max {r : Renewal} {time time' : Nat} (h : r.Patient time) (h' : r.Patient time') :
    r.Patient (max time time') := by
  cases r with
  | resting | attempting => exact Nat.max_le.2 ⟨h, h'⟩
  | lost | crashed | stopped => trivial

/-- The next time that any renewal has something to do is the first of all. -/
theorem min?_le_nextTime {time next : Nat} {times : List Nat} {g : Guard}
    (hmin : (times ++ w.nextRenewalTime.toList).min? = some time) (hc : w.candidate? i = some c)
    (hg : c.guard = some g) (hnext : Guard.nextTime g = some next) : time ≤ next := by
  have hmem : next ∈ w.candidates.filterMap fun c => c.guard.bind Guard.nextTime :=
    List.mem_filterMap.2 ⟨c, List.mem_of_getElem? hc, by rw [hg]; exact hnext⟩
  rcases hfirst : w.nextRenewalTime with _ | first
  · rw [World.nextRenewalTime, List.min?_eq_none_iff] at hfirst
    rw [hfirst] at hmem
    cases hmem
  · have hle : first ≤ next := (List.min?_eq_some_iff.1 hfirst).2 next hmem
    have htime : time ≤ first := (List.min?_eq_some_iff.1 hmin).2 first (by simp [hfirst])
    exact Nat.le_trans htime hle

/-- Time passes, up to when some renewal has something to do. -/
theorem Faithful.pass (h : w.Faithful pursues) {time : Nat} {times : List Nat}
    (hmin : (times ++ w.nextRenewalTime.toList).min? = some time) :
    Faithful { w with time := max time w.time } pursues := by
  intro i c hc
  obtain ⟨k, hk, hp⟩ := h i c hc
  refine ⟨k, ⟨hk.reachable.pass (Nat.le_max_right _ _) fun r hr => ?_, hk.isLeader, hk.renewal⟩, hp⟩
  obtain ⟨g, hg, rfl⟩ := Option.map_eq_some_iff.1 (hk.renewal ▸ hr)
  exact patient_max (patient_of_le_nextTime fun _ => min?_le_nextTime hmin hc hg) (h.patient hc hg)

/-- An activity keeps a world faithful, whatever becomes of it. -/
theorem Faithful.runActivity {activity : Activity} (h : w.Faithful activity.Pursues)
    (steps : Nat) : (w.runActivity activity steps).1.Faithful Idle := by
  induction steps generalizing w activity with
  | zero => exact h.idle
  | succ steps ih =>
    unfold World.runActivity
    have hadvance := h.advance
    rcases hw : w.advance activity with ⟨w₁, activity₁ | outcome⟩
    · rw [hw] at hadvance
      have hrenew : w₁.renewAll.Faithful activity₁.Pursues := hadvance.renewAll
      rcases hsend : w₁.renewAll.sendActivity activity₁ with _ | ⟨w₂, activity₂ | outcome⟩
      · have hagain := hrenew.advance
        rcases hw₂ : w₁.renewAll.advance activity₁ with ⟨w₂, activity₂ | outcome⟩
        · rw [hw₂] at hagain
          simp only [hsend, hw₂]
          split
          · exact Faithful.idle hagain
          · rename_i time hmin
            exact ih (Faithful.pass hagain hmin)
        · rw [hw₂] at hagain
          simp only [hsend, hw₂]
          exact hagain
      · have hsent := hrenew.sendActivity hsend
        simp only [hsend]
        exact ih hsent
      · have hsent := hrenew.sendActivity hsend
        simp only [hsend]
        exact hsent
    · rw [hw] at hadvance
      exact hadvance

/-! ### Commands -/

theorem faithful_initial (clock : WallClock) (server : Server) (connected : Bool)
    (electors : List Elector) : (initial clock server connected electors).Faithful Idle := by
  intro i c hc
  have hc : c ∈ electors.map fun e => (⟨e, false, none⟩ : Candidate) := List.mem_of_getElem? hc
  obtain ⟨e, -, rfl⟩ := List.mem_map.1 hc
  exact ⟨.vacant, ⟨.vacant, rfl, rfl⟩, rfl⟩

theorem Faithful.beginAcquire (h : w.Faithful Idle) (index : Nat) (deadline : Option Nat) :
    w.Faithful (w.beginAcquire index deadline).Pursues := by
  intro i c hc
  obtain ⟨k, hk, hidle⟩ := h i c hc
  by_cases hi : i = index
  · have hstep : Candidacy.Step c.elector w.time (.begin w.now) k _ := .seek hidle
    exact ⟨_, ⟨hk.reachable.move hstep, hk.isLeader, hk.renewal⟩,
      by simp [World.beginAcquire, Activity.Pursues, hi]⟩
  · exact ⟨k, hk, (pursues_of_ne hi).2 hidle⟩

/-- The renewals of a candidate stop before it gives its lease back. -/
theorem Faithful.beginRelease (h : w.Faithful Idle) {index : Nat} {activity : Activity}
    (hbegin : w.beginRelease index = some (w', activity)) : w'.Faithful activity.Pursues := by
  obtain ⟨c, hc, hbegin⟩ := Option.bind_eq_some_iff.1 hbegin
  obtain ⟨g, hg, hbegin⟩ := Option.bind_eq_some_iff.1 hbegin
  cases hbegin
  refine h.setCandidate hc (fun k hk hidle => ?_) fun _ _ _ hidle => hidle
  exact ⟨_, ⟨hk.reachable.move (.stop (hk.renewal_eq hg)), hk.isLeader, rfl⟩, hidle⟩

theorem Faithful.release (h : w.Faithful Idle) (index : Nat) :
    (w.release index).1.Faithful Idle := by
  unfold World.release
  split
  · rename_i w₁ activity hbegin
    exact (h.beginRelease hbegin).runActivity _
  · exact h

/-- A command keeps a world faithful. -/
theorem Faithful.obey (h : w.Faithful Idle) {command : Command} {outcome : Option Outcome}
    (hobey : w.obey? command = some (w', outcome)) : w'.Faithful Idle := by
  cases command with
  | acquire index timeout =>
    obtain rfl : (w.acquire index timeout).1 = w' := congrArg Prod.fst (Option.some.inj hobey)
    exact (h.beginAcquire index _).runActivity _
  | awaitLoss index timeout =>
    obtain rfl : (w.awaitLoss index timeout).1 = w' := congrArg Prod.fst (Option.some.inj hobey)
    have hwaiting : w.Faithful (Activity.awaitingLoss index (some (w.time + timeout))).Pursues := h
    exact hwaiting.runActivity _
  | release index =>
    obtain rfl : (w.release index).1 = w' := congrArg Prod.fst (Option.some.inj hobey)
    exact h.release index
  | dropGuard index =>
    cases hobey
    exact h.dropGuard index
  | sleep duration =>
    obtain rfl : (w.sleep duration).1 = w' := congrArg Prod.fst (Option.some.inj hobey)
    have hsleeping : w.Faithful (Activity.sleeping (w.time + duration)).Pursues := h
    exact hsleeping.runActivity _
  | update change =>
    obtain ⟨store, -, heq⟩ := Option.map_eq_some_iff.1 hobey
    cases heq
    exact h.congr rfl rfl
  | delete | plan | setUnavailable =>
    cases hobey
    exact h.congr rfl rfl

/-- The worlds that an observer can bring about, one command after the other. -/
inductive Visited : World → Prop
  | initial (clock : WallClock) (server : Server) (connected : Bool) (electors : List Elector) :
      Visited (.initial clock server connected electors)
  | obey {w w' : World} {command : Command} {outcome : Option Outcome} (h : Visited w)
      (hobey : w.obey? command = some (w', outcome)) : Visited w'

/-- **In every world, every candidate goes through a candidacy.** -/
theorem Visited.faithful (h : w.Visited) : w.Faithful Idle := by
  induction h with
  | initial clock server connected electors =>
    exact faithful_initial clock server connected electors
  | obey _ hobey ih => exact ih.obey hobey

/-- **Renewals never go on for longer than the reach after the last one of them.** -/
theorem Visited.le_reach (h : w.Visited) (hc : w.candidate? i = some c) {g : Guard}
    (hg : c.guard = some g) (hgoesOn : g.renewal.GoesOn) :
    ∃ ended, ended ≤ w.time ∧ g.renewal.Timely c.elector.timing ended w.time ∧
      w.time ≤ ended + c.elector.timing.reach := by
  obtain ⟨k, hk, -⟩ := h.faithful i c hc
  obtain ⟨span, -, -, hended, htimely⟩ := hk.reachable.timely.renewal _ (hk.renewal_eq hg)
  exact ⟨span.ended, hended, htimely, htimely.le_reach hgoesOn⟩

end World

end ControllerManager.Simulation
