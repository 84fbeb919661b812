import ControllerManager.Proofs.Election.Candidacy
import ControllerManager.Proofs.Election.Verdict
import Mathlib.Logic.Relation

/-!
# When a leadership is given up

A leader that keeps its guard gives up between the renewal deadline after its last success and a
rest later, whatever the server answers and however late, and whoever waits for the loss learns of
it at that moment. A server that stays silent always brings this about. The one exception is an
answer over which the elector crashes: it ends the renewals, so that whoever waits for the loss
goes on, but the elector stays the leader for good.

## Main definitions

* `Election.Candidacy.Keeps` — what happens while the guard is kept.
* `Election.Candidacy.Guarded` — a leader that kept its guard since it gained the lease.
* `Election.Candidacy.GivesUpOnTime` — when the leadership ends, and who learns of it.

## Main results

* `Election.Candidacy.Kept.keeps` — every event keeps what is known of the renewals.
* `Election.Candidacy.Kept.exists_silent_loss` — without answers, the leadership is lost.
* `Election.Candidacy.gives_up_on_time_iff`.
-/

namespace ControllerManager.Election

open Cluster

/-! ### Losses -/

namespace Renewal

/-- Whether the leadership was lost. -/
def isLost : Renewal → Bool
  | .lost _ => true
  | _ => false

/-- A loss until `time` came between the deadline after the last success and a rest later. The
renewals were not stopped by hand. -/
def InWindow (t : Timing) (last time : Nat) : Renewal → Prop
  | .lost moment =>
    moment ≤ time ∧ last + t.renewDeadline ≤ moment ∧
      moment ≤ last + t.renewDeadline + t.retryInterval
  | .stopped => False
  | _ => True

/-- How an event at `time` left the renewals, if only such answers came as `heard` says: a loss is
one of now, and a crash came of such an answer. -/
def Followed (e : Elector) (heard : LeaseAnswer → Prop) (time : Nat) : Renewal → Prop
  | .lost moment => moment = time
  | .crashed _ => e.timing.retryInterval < e.timing.renewDeadline ∧
      ∃ now l, heard (.ok l) ∧ e.CrashesOver now l
  | _ => True

variable {t : Timing} {e : Elector} {heard : LeaseAnswer → Prop} {last time time' : Nat}

theorem InWindow.mono {r : Renewal} (h : r.InWindow t last time) (hle : time ≤ time') :
    r.InWindow t last time' := by
  cases r with
  | lost moment => exact ⟨Nat.le_trans h.1 hle, h.2⟩
  | stopped => exact h
  | resting | attempting | crashed => trivial

/-- A failure ends the leadership now, and not before the deadline. -/
theorem inWindow_afterFailure (hle : time ≤ last + t.renewDeadline + t.retryInterval)
    (hlast : last ≤ time) : (afterFailure t last time).InWindow t last time := by
  unfold afterFailure
  split_ifs with hover
  · exact ⟨Nat.le_refl _, by omega, hle⟩
  · trivial

theorem followed_afterFailure : (afterFailure t last time).Followed e heard time := by
  unfold afterFailure
  split_ifs <;> trivial

/-- An answer crashes the renewals only over the lease that it holds. -/
theorem followed_receive {answer : LeaseAnswer} {deadline : Nat} {a : Attempt}
    (hheard : heard answer) (hroom : e.timing.retryInterval < e.timing.renewDeadline) :
    (receive e time answer (.attempting last deadline a)).Followed e heard time := by
  rcases receive_cases e time answer last deadline a with
    ⟨a', -, -, heq⟩ | ⟨hold, -, -, heq⟩ | ⟨crash, hcrash, -, heq⟩ | ⟨-, heq⟩
  · rw [heq]
    trivial
  · rw [heq]
    trivial
  · obtain ⟨now, l, -, rfl, hcrashes⟩ := Attempt.receive_eq_crashed_iff.1 ⟨crash, hcrash⟩
    rw [heq]
    exact ⟨hroom, now, l, hheard, hcrashes⟩
  · rw [heq]
    exact followed_afterFailure

end Renewal

namespace Candidacy

/-! ### Events while the guard is kept -/

/-- What happens while the guard of a leader is kept, if only such answers come as `heard` says.
Time passes until the timer of the renewals at most, or the renewals move; they are not stopped, the
guard is not dropped, and nothing is sought. -/
inductive Keeps (e : Elector) (heard : LeaseAnswer → Prop) :
    Nat × Candidacy → Nat × Candidacy → Prop
  | pass {time time' : Nat} {c : Candidacy} (hle : time ≤ time')
      (hpatient : ∀ r, c.renewal = some r → r.Patient time') : Keeps e heard (time, c) (time', c)
  | move {time : Nat} {m : Move} {c c' : Candidacy} (hstep : Step e time m c c')
      (hheard : ∀ answer, m = .hear answer → heard answer) (hstop : m ≠ .stop)
      (hguard : c'.renewal ≠ none) (hidle : c'.pursuit = none) : Keeps e heard (time, c) (time, c')

/-- A leader that gained the lease when it had no guard, and kept the guard since. -/
inductive Guarded (e : Elector) (heard : LeaseAnswer → Prop) : Nat → Candidacy → Prop
  | gain {time began : Nat} {c : Candidacy} {a : Attempt} {answer : LeaseAnswer} {hold : Hold}
      (h : Reachable e time c) (hfree : c.renewal = none)
      (hpursuit : c.pursuit = some (.attempting began a))
      (hheld : a.receive e answer = .inr (.held hold)) :
      Guarded e heard time (c.pursue e time began (a.receive e answer))
  | keep {time time' : Nat} {c c' : Candidacy} (h : Guarded e heard time c)
      (hkeeps : Keeps e heard (time, c) (time', c')) : Guarded e heard time' c'

/-- What is known of a leader that kept its guard, if the last attempt that gained the lease ended
at `last`. -/
structure Kept (e : Elector) (time last : Nat) (c : Candidacy) : Prop where
  timely : c.Timely e time
  idle : c.pursuit = none
  held : c.held.map Span.ended = some last
  renewal : ∃ r, c.renewal = some r ∧ c.isLeader = !r.isLost ∧ r.InWindow e.timing last time

section Kept

variable {e : Elector} {heard : LeaseAnswer → Prop} {time time' last : Nat} {c c' : Candidacy}

/-- Time passes as far as the timer of the renewals allows for it. -/
theorem keeps_pass {r : Renewal} (hr : c.renewal = some r) (hle : time ≤ time')
    (hpatient : r.Patient time') : Keeps e heard (time, c) (time', c) := by
  refine .pass hle fun r' hr' => ?_
  obtain rfl : r = r' := Option.some.inj (hr.symm.trans hr')
  exact hpatient

/-- The renewals of a kept guard keep their deadlines. -/
theorem Kept.timely_renewal (h : Kept e time last c) {r : Renewal} (hr : c.renewal = some r) :
    last ≤ time ∧ r.Timely e.timing last time := by
  obtain ⟨span, hheld, -, hended, htimely⟩ := h.timely.renewal r hr
  have hlast : span.ended = last := by simpa [hheld] using h.held
  exact hlast ▸ ⟨hended, htimely⟩

/-- Who kept its guard leads unless the leadership was lost. -/
theorem Kept.isLeader_eq (h : Kept e time last c) {r : Renewal} (hr : c.renewal = some r) :
    c.isLeader = !r.isLost := by
  obtain ⟨r', hr', hleader, -⟩ := h.renewal
  obtain rfl : r = r' := Option.some.inj (hr.symm.trans hr')
  exact hleader

theorem Kept.isLeader (h : Kept e time last c) {r : Renewal} (hr : c.renewal = some r)
    (hgoesOn : r.GoesOn) : c.isLeader = true := by
  rw [h.isLeader_eq hr]
  cases r with
  | resting | attempting => rfl
  | lost | crashed | stopped => cases hgoesOn

/-- While the renewals go on, the deadline and a rest after the last success are not over. -/
theorem Kept.le_of_goesOn (h : Kept e time last c) {r : Renewal} (hr : c.renewal = some r)
    (hgoesOn : r.GoesOn) : time ≤ last + e.timing.renewDeadline + e.timing.retryInterval := by
  have hreach := (h.timely_renewal hr).2.le_reach hgoesOn
  have hle := e.timing.reach_le
  omega

/-- A leader stays one while its renewals move on, except by a loss. -/
theorem isLeader_settle (hleader : c.isLeader = true) (r : Renewal) :
    (c.settle r).isLeader = !r.isLost := by
  cases r with
  | lost => rfl
  | resting | attempting | crashed | stopped => exact hleader

/-- Renewals that go on move without an answer. -/
theorem Kept.settle (h : Kept e time last c) {r r' : Renewal} (hr : c.renewal = some r)
    (hgoesOn : r.GoesOn) (htimely : (c.settle r').Timely e time)
    (hwindow : r'.InWindow e.timing last time) : Kept e time last (c.settle r') :=
  ⟨htimely, h.idle, h.held, r', rfl, isLeader_settle (h.isLeader hr hgoesOn) r', hwindow⟩

/-- An answer to the attempt of a renewal is a success now, or leaves the last one. -/
theorem Kept.renew {deadline : Nat} {a : Attempt} (h : Kept e time last c)
    (hr : c.renewal = some (.attempting last deadline a)) (answer : LeaseAnswer) :
    Kept e time (if a.gains e answer then time else last)
      (c.renew e time answer last deadline a) := by
  have hle := h.le_of_goesOn hr trivial
  obtain ⟨hlast, -⟩ := h.timely_renewal hr
  refine ⟨h.timely.renew hr answer, h.idle, ?_, _, rfl,
    isLeader_settle (h.isLeader hr trivial) _, ?_⟩
  · by_cases hgains : a.gains e answer = true
    · simp [Candidacy.renew, hgains]
    · simp [Candidacy.renew, hgains, h.held]
  · rcases Renewal.receive_cases e time answer last deadline a with
      ⟨a', -, hgains, heq⟩ | ⟨hold, -, hgains, heq⟩ | ⟨crash, -, hgains, heq⟩ | ⟨hgains, heq⟩
    · rw [heq]
      trivial
    · rw [heq]
      trivial
    · rw [heq]
      trivial
    · rw [heq, hgains]
      exact Renewal.inWindow_afterFailure hle hlast

/-- Every event keeps what is known of the renewals, with a success of its own or the last one. It
leaves the renewals alone, or moves them. -/
theorem Kept.keeps (h : Kept e time last c) (hkeeps : Keeps e heard (time, c) (time', c')) :
    ∃ last', Kept e time' last' c' ∧ (last' = last ∨ ∃ answer, heard answer) ∧
      (c'.renewal = c.renewal ∨ ∀ r, c'.renewal = some r → r.Followed e heard time') := by
  cases hkeeps with
  | pass hle hpatient =>
    obtain ⟨r, hr, hleader, hwindow⟩ := h.renewal
    exact ⟨last, ⟨h.timely.pass hle hpatient, h.idle, h.held, r, hr, hleader, hwindow.mono hle⟩,
      .inl rfl, .inl rfl⟩
  | move hstep hheard hstop hguard hidle =>
    have htimely := hstep.timely h.timely
    cases hstep with
    | seek | retry => cases hidle
    | rise hrest hwake hroom =>
      obtain ⟨-, rfl, -⟩ := h.timely_renewal hrest
      rw [Renewal.begin_eq_attempting hroom] at htimely ⊢
      refine ⟨_, ⟨htimely, h.idle, h.held, _, rfl, h.isLeader hrest trivial, trivial⟩, .inl rfl,
        .inr ?_⟩
      rintro r hr
      cases hr
      trivial
    | expire hrest hwake hover =>
      have hle := h.le_of_goesOn hrest trivial
      obtain ⟨hlast, rfl, -⟩ := h.timely_renewal hrest
      rw [Renewal.begin_eq_lost hover] at htimely ⊢
      refine ⟨_, h.settle hrest trivial htimely ⟨Nat.le_refl _, by omega, hle⟩, .inl rfl, .inr ?_⟩
      rintro r hr
      cases hr
      rfl
    | learn hpursuit => exact absurd (hpursuit.symm.trans h.idle) (by simp)
    | @renew _ answer _ deadline a hr =>
      obtain ⟨-, rfl, hroom, -⟩ := h.timely_renewal hr
      refine ⟨_, h.renew hr answer, ?_, .inr ?_⟩
      · exact .inr ⟨answer, hheard answer rfl⟩
      · rintro r hr
        cases hr
        exact Renewal.followed_receive (hheard answer rfl) hroom
    | withdraw => exact ⟨last, ⟨htimely, rfl, h.held, h.renewal⟩, .inl rfl, .inl rfl⟩
    | giveUp hr hdue =>
      have hle := h.le_of_goesOn hr trivial
      obtain ⟨hlast, rfl, -⟩ := h.timely_renewal hr
      refine ⟨_, h.settle hr trivial htimely (Renewal.inWindow_afterFailure hle hlast), .inl rfl,
        .inr ?_⟩
      rintro r hr
      cases hr
      exact Renewal.followed_afterFailure
    | drop => exact absurd rfl hguard
    | stop => exact absurd rfl hstop

/-- Without an answer that crashes it, an event does not crash a leader that kept its guard. -/
theorem Kept.not_crashed (h : Kept e time last c) (hkeeps : Keeps e heard (time, c) (time', c'))
    (hsafe : e.timing.retryInterval < e.timing.renewDeadline →
      ∀ now l, heard (.ok l) → ¬ e.CrashesOver now l)
    (hc : ∀ crash, c.renewal ≠ some (.crashed crash)) (crash : Crash) :
    c'.renewal ≠ some (.crashed crash) := by
  obtain ⟨-, -, -, hsame | hmoved⟩ := h.keeps hkeeps
  · exact hsame ▸ hc crash
  · intro hcrash
    obtain ⟨hroom, now, l, hheard, hcrashes⟩ := hmoved _ hcrash
    exact hsafe hroom now l hheard hcrashes

/-- What is known of a leader that has just gained the lease. -/
theorem kept_gain {began : Nat} {a : Attempt} {answer : LeaseAnswer} {hold : Hold}
    (h : Reachable e time c) (hfree : c.renewal = none)
    (hpursuit : c.pursuit = some (.attempting began a))
    (hheld : a.receive e answer = .inr (.held hold)) :
    Kept e time time (c.pursue e time began (a.receive e answer)) := by
  have htimely := h.timely.pursue (h.timely.pursuit _ _ hpursuit) (a.receive e answer)
  rw [hheld] at htimely ⊢
  exact ⟨htimely, rfl, rfl, _, rfl, by simp [pursue, hfree, Renewal.start, Renewal.isLost], trivial⟩

/-- Whoever kept its guard since it gained the lease had a last success. -/
theorem Guarded.kept (h : Guarded e heard time c) : ∃ last, Kept e time last c := by
  induction h with
  | gain h hfree hpursuit hheld => exact ⟨_, kept_gain h hfree hpursuit hheld⟩
  | keep _ hkeeps ih =>
    obtain ⟨last, hkept⟩ := ih
    obtain ⟨last', hkept', -⟩ := hkept.keeps hkeeps
    exact ⟨last', hkept'⟩

/-! ### Silence -/

/-- Without answers the last success stays the last one, and nothing crashes. -/
theorem Kept.silent {p : Nat × Candidacy} (h : Kept e time last c)
    (hcourse : Relation.ReflTransGen (Keeps e fun _ => False) (time, c) p) :
    Kept e p.1 last p.2 ∧ ((∀ crash, c.renewal ≠ some (.crashed crash)) →
      ∀ crash, p.2.renewal ≠ some (.crashed crash)) := by
  induction hcourse with
  | refl => exact ⟨h, id⟩
  | tail _ hkeeps ih =>
    obtain ⟨hkept, hcrashed⟩ := ih
    refine ⟨?_, fun hc => hkept.not_crashed hkeeps (by simp) (hcrashed hc)⟩
    obtain ⟨last', hkept', rfl | ⟨answer, hheard⟩, -⟩ := hkept.keeps hkeeps
    · exact hkept'
    · exact hheard.elim

/-- Without an answer, the attempt of a renewal goes on until its deadline, which ends the
leadership. -/
theorem Kept.exists_silent_giveUp {deadline : Nat} {a : Attempt} (h : Kept e time last c)
    (hr : c.renewal = some (.attempting last deadline a)) :
    ∃ moment c', Relation.ReflTransGen (Keeps e fun _ => False) (time, c) (moment, c') ∧
      c'.renewal = some (.lost moment) := by
  obtain ⟨-, -, -, rfl, hle⟩ := h.timely_renewal hr
  have hpass : Keeps e (fun _ => False) (time, c) (last + e.timing.renewDeadline, c) :=
    keeps_pass hr hle (Nat.le_refl _)
  have hgiveUp : Keeps e (fun _ => False) (last + e.timing.renewDeadline, c)
      (last + e.timing.renewDeadline, c.settle _) :=
    .move (.giveUp hr (Nat.le_refl _)) (by simp) (by simp) (by simp) h.idle
  refine ⟨_, _, .tail (.single hpass) hgiveUp, ?_⟩
  rw [renewal_settle, Renewal.giveUp, Renewal.afterFailure, if_pos (by omega)]

/-- Without answers, a leadership that goes on is lost. -/
theorem Kept.exists_silent_loss (h : Kept e time last c) {r : Renewal} (hr : c.renewal = some r)
    (hgoesOn : r.GoesOn) :
    ∃ moment c', Relation.ReflTransGen (Keeps e fun _ => False) (time, c) (moment, c') ∧
      c'.renewal = some (.lost moment) := by
  cases r with
  | resting from' wake =>
    obtain ⟨-, rfl, hrest, -, hle⟩ := h.timely_renewal hr
    have hpass : Keeps e (fun _ => False) (time, c) (wake, c) := keeps_pass hr hle (Nat.le_refl _)
    rcases Nat.lt_or_ge (wake - from') e.timing.renewDeadline with hroom | hover
    · -- One more attempt is made, and never answered.
      have hrise : Keeps e (fun _ => False) (wake, c)
          (wake, { c.settle (.begin e.timing from' wake 0) with renewalBegan := wake }) :=
        .move (.rise hr (Nat.le_refl _) hroom) (by simp) (by simp) (by simp) h.idle
      have hcourse : Relation.ReflTransGen (Keeps e fun _ => False) (time, c) _ :=
        .tail (.single hpass) hrise
      obtain ⟨moment, c', hsilent, hlost⟩ := (h.silent hcourse).1.exists_silent_giveUp
        (congrArg some (Renewal.begin_eq_attempting hroom))
      exact ⟨moment, c', hcourse.trans hsilent, hlost⟩
    · have hexpire : Keeps e (fun _ => False) (wake, c)
          (wake, c.settle (.begin e.timing from' wake 0)) :=
        .move (.expire hr (Nat.le_refl _) hover) (by simp) (by simp) (by simp) h.idle
      refine ⟨wake, _, .tail (.single hpass) hexpire, ?_⟩
      rw [renewal_settle, Renewal.begin_eq_lost hover]
  | attempting from' deadline a =>
    obtain ⟨-, rfl, -⟩ := h.timely_renewal hr
    exact h.exists_silent_giveUp hr
  | lost | crashed | stopped => cases hgoesOn

/-! ### Crashes -/

/-- Without answers that crash it, a leader that keeps its guard does not crash. -/
theorem Guarded.not_crashed (h : Guarded e heard time c)
    (hsafe : e.timing.retryInterval < e.timing.renewDeadline →
      ∀ now l, heard (.ok l) → ¬ e.CrashesOver now l) (crash : Crash) :
    c.renewal ≠ some (.crashed crash) := by
  induction h generalizing crash with
  | gain h hfree hpursuit hheld => simp [hheld, pursue, Renewal.start]
  | keep h hkeeps ih =>
    obtain ⟨last, hkept⟩ := h.kept
    exact hkept.not_crashed hkeeps hsafe ih crash

/-- A leader that gained the lease by its first attempt, at once. -/
theorem guarded_elected (e : Elector) (heard : LeaseAnswer → Prop) :
    Guarded e heard 0 (elected e ⟨0, 0⟩) := by
  have hwrites : e.Writes 0 LeaseStore.empty.lease (.create (e.freshLease 0 0 none)) .created :=
    .create
  have hread := ((Reachable.vacant (e := e)).move (step_seeking 0)).move
    (step_seeking_writing hwrites.receive_stored)
  have hgain : Guarded e heard 0 (Candidacy.pursue e 0 0 _
      (Attempt.receive e (.writing _ .created) (.ok (e.freshLease 0 0 none)))) :=
    .gain hread rfl rfl rfl
  exact hgain

/-- An answer over which the elector crashes ends the renewals, and leaves the leader one. -/
theorem exists_crashed (hroom : e.timing.retryInterval < e.timing.renewDeadline)
    {now : Lease.Instant} {l : Lease} (hheard : heard (.ok l)) (hcrashes : e.CrashesOver now l) :
    ∃ c crash, Guarded e heard e.timing.retryInterval c ∧ c.held.map Span.ended = some 0 ∧
      c.isLeader = true ∧ c.renewal = some (.crashed crash) := by
  obtain ⟨crash, hcrash⟩ := Attempt.receive_eq_crashed_iff.2 ⟨now, l, rfl, rfl, hcrashes⟩
  have hrest : Guarded e heard e.timing.retryInterval (elected e ⟨0, 0⟩) :=
    (guarded_elected e heard).keep
      (keeps_pass rfl (Nat.zero_le _) (Nat.le_of_eq (Nat.zero_add _).symm))
  have hrise : Step e e.timing.retryInterval (.begin now) (elected e ⟨0, 0⟩) _ :=
    .rise rfl (Nat.le_of_eq (Nat.zero_add _)) hroom
  rw [Renewal.begin_eq_attempting hroom] at hrise
  have hattempting := hrest.keep (.move hrise (by simp) (by simp) (by simp) rfl)
  have hcrashed := hattempting.keep
    (.move (m := .hear (.ok l)) (.renew rfl) (by simp [hheard]) (by simp) (by simp [renew]) rfl)
  refine ⟨_, crash, hcrashed, ?_, ?_, ?_⟩
  · simp [renew, Attempt.gains, hcrash, Verdict.isHeld, elected, settle]
  · simp [renew, Renewal.receive, hcrash, Renewal.afterVerdict, settle, elected]
  · simp [renew, Renewal.receive, hcrash, Renewal.afterVerdict, settle]

end Kept

/-! ### The end of a leadership -/

/-- Whoever waits for the loss of the leadership goes on. -/
def LossLearned (c : Candidacy) : Prop := ∃ r, c.renewal = some r ∧ r.isOver = true

/-- When the leadership is given up whose last success was at `last`, and who learns of it. -/
structure GivesUpOnTime (e : Elector) (heard : LeaseAnswer → Prop) (time last : Nat)
    (c : Candidacy) : Prop where
  /-- The last attempt that gained the lease ended at `last`. -/
  success : c.held.map Span.ended = some last
  /-- Nothing ends the leadership before the deadline. -/
  leads : time < last + e.timing.renewDeadline → c.isLeader = true
  /-- It never goes on after the deadline and a rest. -/
  leads_until : c.isLeader = true →
    time ≤ last + e.timing.renewDeadline + e.timing.retryInterval
  /-- It ended at a moment in between. -/
  lost : c.isLeader = false → ∃ moment, c.renewal = some (.lost moment) ∧ moment ≤ time ∧
    last + e.timing.renewDeadline ≤ moment ∧
    moment ≤ last + e.timing.renewDeadline + e.timing.retryInterval
  /-- This moment is that of the event that ends it. -/
  turns : ∀ time' c', Keeps e heard (time, c) (time', c') → c.isLeader = true →
    c'.isLeader = false → c'.renewal = some (.lost time')
  /-- At this moment, and not before, the loss is learned of. -/
  learned : c.LossLearned ↔ c.isLeader = false
  /-- Without answers it can only go on until it is lost. -/
  silence : c.isLeader = true → ∃ moment c',
    Relation.ReflTransGen (Keeps e fun _ => False) (time, c) (moment, c') ∧
      c'.renewal = some (.lost moment)
  /-- Without answers it is over after the deadline and a rest. -/
  silent : ∀ time' c', Relation.ReflTransGen (Keeps e fun _ => False) (time, c) (time', c') →
    last + e.timing.renewDeadline + e.timing.retryInterval < time' → c'.isLeader = false

section GivesUpOnTime

variable {e : Elector} {heard : LeaseAnswer → Prop} {time last : Nat} {c : Candidacy}

/-- Where the renewals did not crash, they go on or the leadership was lost. -/
theorem Kept.goesOn_or_lost (h : Kept e time last c)
    (hc : ∀ crash, c.renewal ≠ some (.crashed crash)) :
    (∃ r, c.renewal = some r ∧ r.GoesOn ∧ c.isLeader = true) ∨
      ∃ moment, c.renewal = some (.lost moment) ∧ c.isLeader = false ∧ moment ≤ time ∧
        last + e.timing.renewDeadline ≤ moment ∧
        moment ≤ last + e.timing.renewDeadline + e.timing.retryInterval := by
  obtain ⟨r, hr, hleader, hwindow⟩ := h.renewal
  cases r with
  | resting | attempting => exact .inl ⟨_, hr, trivial, hleader⟩
  | lost moment => exact .inr ⟨moment, hr, hleader, hwindow⟩
  | crashed crash => exact absurd hr (hc crash)
  | stopped => exact hwindow.elim

/-- Whoever waits for the loss waits while the renewals go on. -/
theorem not_lossLearned_of_goesOn {r : Renewal} (hr : c.renewal = some r) (hgoesOn : r.GoesOn) :
    ¬ c.LossLearned := by
  rintro ⟨r', hr', hover⟩
  obtain rfl : r = r' := Option.some.inj (hr.symm.trans hr')
  cases r with
  | resting | attempting => cases hover
  | lost | crashed | stopped => cases hgoesOn

theorem Kept.eq_false_of_lost (h : Kept e time last c) {moment : Nat}
    (hlost : c.renewal = some (.lost moment)) : c.isLeader = false :=
  h.isLeader_eq hlost

/-- A leadership that ends at an event was lost at that moment, unless the renewals crash. -/
theorem Kept.lost_of_turns {time' : Nat} {c' : Candidacy} (h : Kept e time last c)
    (hkeeps : Keeps e heard (time, c) (time', c')) (hleader : c.isLeader = true)
    (hover : c'.isLeader = false) : c'.renewal = some (.lost time') := by
  obtain ⟨last', hkept, -, hfollowed⟩ := h.keeps hkeeps
  obtain ⟨r, hr, hr_leader, -⟩ := hkept.renewal
  cases r with
  | lost moment =>
    rcases hfollowed with hsame | hmoved
    · -- The leadership was lost before.
      exact absurd (h.eq_false_of_lost (hsame.symm.trans hr)) (by simp [hleader])
    · rw [hr, show moment = time' from hmoved _ hr]
  | resting | attempting | crashed | stopped => cases hr_leader.symm.trans hover

/-- Whoever kept its guard gives up on time, unless its renewals crashed. -/
theorem Kept.givesUpOnTime (h : Kept e time last c)
    (hc : ∀ crash, c.renewal ≠ some (.crashed crash)) : c.GivesUpOnTime e heard time last := by
  have hstate := h.goesOn_or_lost hc
  refine ⟨h.held, ?_, ?_, ?_, fun time' c' => h.lost_of_turns, ?_, ?_, ?_⟩
  · intro hearly
    rcases hstate with ⟨r, -, -, hleader⟩ | ⟨moment, -, -, hpast, hfrom, -⟩
    · exact hleader
    · omega
  · intro hleader
    rcases hstate with ⟨r, hr, hgoesOn, -⟩ | ⟨moment, -, hover, -⟩
    · exact h.le_of_goesOn hr hgoesOn
    · exact absurd (hleader.symm.trans hover) (by decide)
  · intro hover
    rcases hstate with ⟨r, -, -, hleader⟩ | ⟨moment, hlost, -, hwindow⟩
    · exact absurd (hleader.symm.trans hover) (by decide)
    · exact ⟨moment, hlost, hwindow⟩
  · rcases hstate with ⟨r, hr, hgoesOn, hleader⟩ | ⟨moment, hlost, hover, -⟩
    · exact iff_of_false (not_lossLearned_of_goesOn hr hgoesOn) (by simp [hleader])
    · exact iff_of_true ⟨_, hlost, rfl⟩ hover
  · intro hleader
    rcases hstate with ⟨r, hr, hgoesOn, -⟩ | ⟨moment, -, hover, -⟩
    · exact h.exists_silent_loss hr hgoesOn
    · exact absurd (hleader.symm.trans hover) (by decide)
  · intro time' c' hcourse hlate
    obtain ⟨hkept, hcrashed⟩ := h.silent hcourse
    rcases hkept.goesOn_or_lost (hcrashed hc) with ⟨r, hr, hgoesOn, -⟩ | ⟨moment, -, hover, -⟩
    · exact absurd (hkept.le_of_goesOn hr hgoesOn) (Nat.not_le.2 hlate)
    · exact hover

/-- **When a leadership is given up.** Let only such answers come as `heard` says, in any order and
after any delays. Every leader that keeps its guard gives up on time exactly if none of these
answers holds a lease over which the elector crashes, or if its rests are too long for a renewal. -/
theorem gives_up_on_time_iff (e : Elector) (heard : LeaseAnswer → Prop) :
    (∀ time c, Guarded e heard time c → ∃ last, c.GivesUpOnTime e heard time last) ↔
      (e.timing.retryInterval < e.timing.renewDeadline →
        ∀ now l, heard (.ok l) → ¬ e.CrashesOver now l) := by
  constructor
  · intro h hroom now l hheard hcrashes
    obtain ⟨c, crash, hguarded, -, hleader, hcrashed⟩ := exists_crashed hroom hheard hcrashes
    obtain ⟨last, hontime⟩ := h _ c hguarded
    have hover : c.isLeader = false := hontime.learned.1 ⟨_, hcrashed, rfl⟩
    exact absurd (hleader.symm.trans hover) (by decide)
  · intro hsafe time c hguarded
    obtain ⟨last, hkept⟩ := hguarded.kept
    exact ⟨last, hkept.givesUpOnTime (hguarded.not_crashed hsafe)⟩

/-- A leader with the standard timing crashes over a lease of somebody else, whose count of
transitions is not full. Whoever waits for the loss goes on, but the elector stays the leader at all
later times, also after the deadline and a rest. -/
theorem crashed_leader_stays :
    Elector.renewedLast.transitions ≠ Elector.maxTransitions ∧ ∃ c,
      (∀ later, 2 * Timing.perSecond ≤ later → Guarded (Contest.rivals .standard false)
        (fun answer => answer = .ok Elector.renewedLast) later c) ∧
      c.held.map Span.ended = some 0 ∧ c.isLeader = true ∧ c.LossLearned := by
  have hcrashes : (Contest.rivals .standard false).CrashesOver 0 Elector.renewedLast :=
    ⟨by decide, .inl (by decide)⟩
  obtain ⟨c, crash, hguarded, hheld, hleader, hcrashed⟩ :
      ∃ c crash, Guarded (Contest.rivals .standard false)
        (fun answer => answer = .ok Elector.renewedLast) (2 * Timing.perSecond) c ∧
        c.held.map Span.ended = some 0 ∧ c.isLeader = true ∧ c.renewal = some (.crashed crash) :=
    exists_crashed (by decide) rfl hcrashes
  exact ⟨by decide, c, fun later hle => hguarded.keep (keeps_pass hcrashed hle trivial), hheld,
    hleader, _, hcrashed, rfl⟩

end GivesUpOnTime

end Candidacy

end ControllerManager.Election
