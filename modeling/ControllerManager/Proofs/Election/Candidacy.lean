import ControllerManager.Election.Renewal
import ControllerManager.Proofs.Election.Attempt

/-!
# Candidacies

What one elector goes through: it seeks the lease, one attempt after the other, and once it holds
the lease, it is the leader and renews it. Time passes between its moves, and any answer can come
at any time. Only its own timers are kept: the end of a rest, and the end of the time for a renewal.

Beside what the elector knows, a candidacy keeps when the attempt in progress began, and when the
last attempt began and ended that gained the lease.

## Main definitions

* `Election.Candidacy` — what an elector knows.
* `Election.Candidacy.Step` — one move of it.
* `Election.Candidacy.Reachable` — what it can know at a time.
* `Election.Timing.reach` — for how long a leader can go on without a renewal.

## Main results

* `Election.Candidacy.Reachable.timely` — the renewals keep their deadlines.
* `Election.Candidacy.Timely.le_reach` — no leader goes on for longer than that.
-/

namespace ControllerManager.Election

open Cluster

/-- For how long a leader can go on without a renewal. The last attempt can fail just before the
deadline, and a rest follows it. -/
def Timing.reach (t : Timing) : Nat :=
  if t.retryInterval < t.renewDeadline then
    max t.renewDeadline (t.renewDeadline + t.retryInterval - 1)
  else t.retryInterval

theorem Timing.reach_le (t : Timing) : t.reach ≤ t.renewDeadline + t.retryInterval := by
  unfold reach
  split <;> omega

/-- Whether the attempt gains the lease by an answer. -/
def Attempt.gains (e : Elector) (answer : LeaseAnswer) (a : Attempt) : Bool :=
  match a.receive e answer with
  | .inl _ => false
  | .inr verdict => verdict.isHeld

/-! ### Renewals on time -/

namespace Renewal

/-- At `time` the timer of the renewals is not overdue, and it was set for a leader that gained or
renewed its lease at `ended`. -/
def Timely (t : Timing) (ended time : Nat) : Renewal → Prop
  | .resting last wake =>
    last = ended ∧ last + t.retryInterval ≤ wake ∧ wake ≤ last + t.reach ∧ time ≤ wake
  | .attempting last deadline _ =>
    last = ended ∧ t.retryInterval < t.renewDeadline ∧ deadline = last + t.renewDeadline ∧
      time ≤ deadline
  | _ => True

/-- Whether the renewals go on. -/
def GoesOn : Renewal → Prop
  | .resting _ _ | .attempting _ _ _ => True
  | _ => False

/-- Whether the timer of the renewals allows for the time to be `time`. -/
def Patient (time : Nat) : Renewal → Prop
  | .resting _ wake => time ≤ wake
  | .attempting _ deadline _ => time ≤ deadline
  | _ => True

variable {t : Timing} {ended last time : Nat}

theorem timely_start : (start t time).Timely t time time := by
  refine ⟨rfl, Nat.le_refl _, ?_, Nat.le_add_right _ _⟩
  unfold Timing.reach
  split <;> omega

/-- After a failure the leadership is lost, or the deadline has not come. -/
theorem timely_afterFailure (hlast : last ≤ time) (hroom : t.retryInterval < t.renewDeadline) :
    (afterFailure t last time).Timely t last time := by
  unfold afterFailure
  split_ifs with hover
  · trivial
  · refine ⟨rfl, by omega, ?_, by omega⟩
    unfold Timing.reach
    rw [if_pos hroom]
    omega

theorem begin_eq_attempting {now : Lease.Instant} (hroom : time - last < t.renewDeadline) :
    Renewal.begin t last time now =
      .attempting last (time + (t.renewDeadline - (time - last))) (.reading now) := by
  unfold Renewal.begin
  exact if_neg (by omega)

/-- Without any time left for an attempt, the leadership is lost. -/
theorem begin_eq_lost {now : Lease.Instant} (hover : t.renewDeadline ≤ time - last) :
    Renewal.begin t last time now = .lost time := by
  unfold Renewal.begin afterFailure
  rw [if_pos (by omega), if_pos hover]

theorem Timely.begin {wake : Nat} (now : Lease.Instant)
    (h : (Renewal.resting last wake).Timely t ended time) (hwake : wake ≤ time)
    (hroom : time - last < t.renewDeadline) :
    (Renewal.begin t last time now).Timely t ended time := by
  obtain ⟨rfl, hrest, -, -⟩ := h
  rw [begin_eq_attempting hroom]
  exact ⟨rfl, by omega, by omega, by omega⟩

theorem Timely.giveUp {r : Renewal} (h : r.Timely t ended time) (hended : ended ≤ time) :
    (r.giveUp t time).Timely t ended time := by
  cases r with
  | attempting last deadline a =>
    obtain ⟨rfl, hroom, -, -⟩ := h
    exact timely_afterFailure hended hroom
  | resting | lost | crashed | stopped => exact h

/-- What an answer to the attempt of a renewal means: the attempt goes on, the lease was renewed,
the renewals crash, or the attempt is over without a renewal. -/
theorem receive_cases (e : Elector) (time : Nat) (answer : LeaseAnswer) (last deadline : Nat)
    (a : Attempt) :
    (∃ a', a.receive e answer = .inl a' ∧ a.gains e answer = false ∧
        receive e time answer (.attempting last deadline a) = .attempting last deadline a') ∨
      (∃ hold, a.receive e answer = .inr (.held hold) ∧ a.gains e answer = true ∧
        receive e time answer (.attempting last deadline a) = start e.timing time) ∨
      (∃ crash, a.receive e answer = .inr (.crashed crash) ∧ a.gains e answer = false ∧
        receive e time answer (.attempting last deadline a) = .crashed crash) ∨
      a.gains e answer = false ∧
        receive e time answer (.attempting last deadline a) = afterFailure e.timing last time := by
  rcases ha : a.receive e answer with a' | (hold | refusal | error | crash)
  · by_cases hdue : deadline ≤ time
    · exact .inr (.inr (.inr (by simp [receive, Attempt.gains, ha, hdue])))
    · exact .inl ⟨a', rfl, by simp [receive, Attempt.gains, ha, hdue]⟩
  · refine .inr (.inl ⟨hold, rfl, ?_⟩)
    simp [receive, Attempt.gains, ha, Verdict.isHeld, afterVerdict, start]
  · refine .inr (.inr (.inr ?_))
    simp [receive, Attempt.gains, ha, Verdict.isHeld, afterVerdict]
  · refine .inr (.inr (.inr ?_))
    simp [receive, Attempt.gains, ha, Verdict.isHeld, afterVerdict]
  · refine .inr (.inr (.inl ⟨crash, rfl, ?_⟩))
    simp [receive, Attempt.gains, ha, Verdict.isHeld, afterVerdict]

/-- An answer either renews the lease now, or leaves the time of the last renewal alone. -/
theorem Timely.receive {e : Elector} {deadline : Nat} {a : Attempt}
    (h : (Renewal.attempting last deadline a).Timely e.timing ended time) (hended : ended ≤ time)
    (answer : LeaseAnswer) :
    (Renewal.receive e time answer (.attempting last deadline a)).Timely e.timing
      (if a.gains e answer then time else ended) time := by
  obtain ⟨rfl, hroom, hdeadline, hle⟩ := h
  rcases receive_cases e time answer last deadline a with
    ⟨a', -, hgains, heq⟩ | ⟨hold, -, hgains, heq⟩ | ⟨crash, -, hgains, heq⟩ | ⟨hgains, heq⟩
  · rw [heq, hgains]
    exact ⟨rfl, hroom, hdeadline, hle⟩
  · rw [heq, hgains]
    exact timely_start
  · rw [heq]
    trivial
  · rw [heq, hgains]
    exact timely_afterFailure hended hroom

/-- While the renewals go on, the last one is not longer ago than the reach. -/
theorem Timely.le_reach {r : Renewal} (h : r.Timely t ended time) (hgoesOn : r.GoesOn) :
    time ≤ ended + t.reach := by
  cases r with
  | resting last wake =>
    obtain ⟨rfl, -, hwake, hle⟩ := h
    omega
  | attempting last deadline a =>
    obtain ⟨rfl, hroom, rfl, hle⟩ := h
    unfold Timing.reach
    rw [if_pos hroom]
    omega
  | lost | crashed | stopped => cases hgoesOn

end Renewal

/-! ### What an elector knows -/

/-- When an attempt began and ended that gained the lease. -/
structure Span where
  began : Nat
  ended : Nat
  deriving Repr, DecidableEq

/-- An acquisition in progress. -/
inductive Pursuit where
  /-- An attempt that began at that time waits for an answer. -/
  | attempting (began : Nat) (attempt : Attempt)
  /-- Nothing is tried before `wake`. -/
  | pausing (wake : Nat)
  deriving Repr, DecidableEq

/-- What an elector knows. Times are nanoseconds of a clock that never goes back. -/
structure Candidacy where
  isLeader : Bool
  pursuit : Option Pursuit
  renewal : Option Renewal
  /-- When the last attempt to renew the lease began. -/
  renewalBegan : Nat
  /-- The last attempt that gained the lease. -/
  held : Option Span
  deriving Repr, DecidableEq

/-- What kind of move an elector makes. -/
inductive Move where
  /-- An attempt begins when the wall clock shows `now`. -/
  | begin (now : Lease.Instant)
  /-- The attempt in progress learns of an answer. -/
  | hear (answer : LeaseAnswer)
  /-- Something ends without an answer. -/
  | quit
  /-- The renewals end because the lease is given back. -/
  | stop
  deriving Repr

namespace Candidacy

/-- The elector before it does anything. -/
def vacant : Candidacy := ⟨false, none, none, 0, none⟩

/-- The elector after its renewals moved on. A loss ends the leadership. -/
def settle (c : Candidacy) (r : Renewal) : Candidacy :=
  { c with
    renewal := some r
    isLeader := match r with
      | .lost _ => false
      | _ => c.isLeader }

/-- The elector after the attempt of an acquisition moved on or ended. Renewals that it had before
are given up, which clears the leadership again. -/
def pursue (e : Elector) (time began : Nat) (c : Candidacy) : Attempt ⊕ Verdict → Candidacy
  | .inl a => { c with pursuit := some (.attempting began a) }
  | .inr (.held _) =>
    { c with
      isLeader := c.renewal.isNone
      pursuit := none
      renewal := some (.start e.timing time)
      held := some ⟨began, time⟩ }
  | .inr (.crashed _) => { c with pursuit := none }
  | .inr (.refused _) | .inr (.failed _) =>
    { c with pursuit := some (.pausing (time + e.timing.retryInterval)) }

/-- The elector after an answer to the attempt of its renewals. -/
def renew (e : Elector) (time : Nat) (answer : LeaseAnswer) (last deadline : Nat) (a : Attempt)
    (c : Candidacy) : Candidacy :=
  { c.settle (.receive e time answer (.attempting last deadline a)) with
    held := if a.gains e answer then some ⟨c.renewalBegan, time⟩ else c.held }

/-- One move of an elector at `time`. -/
inductive Step (e : Elector) (time : Nat) : Move → Candidacy → Candidacy → Prop
  | seek {c : Candidacy} {now : Lease.Instant} (hidle : c.pursuit = none) :
      Step e time (.begin now) c { c with pursuit := some (.attempting time (.reading now)) }
  | retry {c : Candidacy} {now : Lease.Instant} {wake : Nat}
      (hpause : c.pursuit = some (.pausing wake)) (hwake : wake ≤ time) :
      Step e time (.begin now) c { c with pursuit := some (.attempting time (.reading now)) }
  | rise {c : Candidacy} {now : Lease.Instant} {last wake : Nat}
      (hrest : c.renewal = some (.resting last wake)) (hwake : wake ≤ time)
      (hroom : time - last < e.timing.renewDeadline) :
      Step e time (.begin now) c
        { c.settle (.begin e.timing last time now) with renewalBegan := time }
  | expire {c : Candidacy} {now : Lease.Instant} {last wake : Nat}
      (hrest : c.renewal = some (.resting last wake)) (hwake : wake ≤ time)
      (hover : e.timing.renewDeadline ≤ time - last) :
      Step e time .quit c (c.settle (.begin e.timing last time now))
  | learn {c : Candidacy} {answer : LeaseAnswer} {began : Nat} {a : Attempt}
      (hpursuit : c.pursuit = some (.attempting began a)) :
      Step e time (.hear answer) c (c.pursue e time began (a.receive e answer))
  | renew {c : Candidacy} {answer : LeaseAnswer} {last deadline : Nat} {a : Attempt}
      (hrenewal : c.renewal = some (.attempting last deadline a)) :
      Step e time (.hear answer) c (c.renew e time answer last deadline a)
  | withdraw {c : Candidacy} : Step e time .quit c { c with pursuit := none }
  | giveUp {c : Candidacy} {last deadline : Nat} {a : Attempt}
      (hrenewal : c.renewal = some (.attempting last deadline a)) (hdue : deadline ≤ time) :
      Step e time .quit c (c.settle (.giveUp e.timing time (.attempting last deadline a)))
  | drop {c : Candidacy} : Step e time .quit c { c with isLeader := false, renewal := none }
  | stop {c : Candidacy} {r : Renewal} (hrenewal : c.renewal = some r) :
      Step e time .stop c { c with renewal := some .stopped }

/-- What an elector can know at a time. -/
inductive Reachable (e : Elector) : Nat → Candidacy → Prop
  | vacant : Reachable e 0 vacant
  | pass {time time' : Nat} {c : Candidacy} (h : Reachable e time c) (hle : time ≤ time')
      (hpatient : ∀ r, c.renewal = some r → r.Patient time') : Reachable e time' c
  | move {time : Nat} {m : Move} {c c' : Candidacy} (h : Reachable e time c)
      (hstep : Step e time m c c') : Reachable e time c'

/-- The elector is the leader, and its renewals go on. -/
def Leads (c : Candidacy) : Prop :=
  c.isLeader = true ∧ ∃ r, c.renewal = some r ∧ r.GoesOn

/-! ### An acquisition without obstacles -/

/-- An elector whose first attempt began at `began`. -/
def seeking (began : Nat) (a : Attempt) : Candidacy :=
  { vacant with pursuit := some (.attempting began a) }

/-- An elector that gained the lease by its first attempt. -/
def elected (e : Elector) (span : Span) : Candidacy :=
  ⟨true, none, some (.start e.timing span.ended), 0, some span⟩

section Acquisition

variable {e : Elector} {time : Nat}

theorem step_seeking (now : Lease.Instant) :
    Step e time (.begin now) vacant (seeking time (.reading now)) :=
  .seek rfl

theorem step_seeking_writing {began : Nat} {a a' : Attempt} {answer : LeaseAnswer}
    (hnext : a.receive e answer = .inl a') :
    Step e time (.hear answer) (seeking began a) (seeking began a') := by
  have hlearn : Step e time (.hear answer) (seeking began a)
      ((seeking began a).pursue e time began (a.receive e answer)) := .learn rfl
  rwa [hnext] at hlearn

theorem step_elected {began : Nat} {call : LeaseCall} {hold : Hold} {l : Lease} :
    Step e time (.hear (.ok l)) (seeking began (.writing call hold)) (elected e ⟨began, time⟩) := by
  have hlearn : Step e time (.hear (.ok l)) (seeking began (.writing call hold))
      ((seeking began (.writing call hold)).pursue e time began
        ((Attempt.writing call hold).receive e (.ok l))) := .learn rfl
  exact hlearn

end Acquisition

/-! ### Deadlines are kept -/

/-- Who is the leader has renewals that were not lost, and whoever has renewals has held the lease
and keeps the deadlines that follow from it. -/
structure Timely (e : Elector) (time : Nat) (c : Candidacy) : Prop where
  pursuit : ∀ began a, c.pursuit = some (.attempting began a) → began ≤ time
  renewalBegan : c.renewalBegan ≤ time
  leader : c.isLeader = true → ∃ r, c.renewal = some r ∧ ∀ lost, r ≠ .lost lost
  renewal : ∀ r, c.renewal = some r → ∃ span, c.held = some span ∧ span.began ≤ span.ended ∧
    span.ended ≤ time ∧ r.Timely e.timing span.ended time

variable {e : Elector} {time time' : Nat} {c c' : Candidacy}

theorem timely_vacant : vacant.Timely e 0 :=
  ⟨by simp [vacant], Nat.le_refl _, by simp [vacant], by simp [vacant]⟩

@[simp]
theorem renewal_settle (r : Renewal) : (c.settle r).renewal = some r := rfl

theorem leader_settle {r : Renewal} (h : (c.settle r).isLeader = true) :
    c.isLeader = true ∧ ∀ lost, r ≠ .lost lost := by
  cases r with
  | lost => cases h
  | resting | attempting | crashed | stopped => exact ⟨h, nofun⟩

theorem Timely.settle (h : c.Timely e time) {r : Renewal} {span : Span} (hheld : c.held = some span)
    (hspan : span.began ≤ span.ended) (hended : span.ended ≤ time)
    (hr : r.Timely e.timing span.ended time) : (c.settle r).Timely e time where
  pursuit := h.pursuit
  renewalBegan := h.renewalBegan
  leader hleader := ⟨r, rfl, (leader_settle hleader).2⟩
  renewal _ hr' := ⟨span, hheld, hspan, hended, Option.some.inj hr' ▸ hr⟩

theorem Timely.pass (h : c.Timely e time) (hle : time ≤ time')
    (hpatient : ∀ r, c.renewal = some r → r.Patient time') : c.Timely e time' where
  pursuit began a ha := Nat.le_trans (h.pursuit began a ha) hle
  renewalBegan := Nat.le_trans h.renewalBegan hle
  leader := h.leader
  renewal r hr := by
    obtain ⟨span, hheld, hspan, hended, htimely⟩ := h.renewal r hr
    refine ⟨span, hheld, hspan, Nat.le_trans hended hle, ?_⟩
    have hp := hpatient r hr
    cases r with
    | resting last wake => exact ⟨htimely.1, htimely.2.1, htimely.2.2.1, hp⟩
    | attempting last deadline a => exact ⟨htimely.1, htimely.2.1, htimely.2.2.1, hp⟩
    | lost | crashed | stopped => trivial

theorem Timely.pursue (h : c.Timely e time) {began : Nat} (hbegan : began ≤ time)
    (next : Attempt ⊕ Verdict) : (c.pursue e time began next).Timely e time := by
  rcases next with a | (hold | refusal | error | crash)
  · refine ⟨?_, h.renewalBegan, h.leader, h.renewal⟩
    rintro began' a' heq
    cases heq
    exact hbegan
  · refine ⟨by simp [Candidacy.pursue], h.renewalBegan, fun _ => ⟨_, rfl, nofun⟩, fun r hr => ?_⟩
    cases hr
    exact ⟨⟨began, time⟩, rfl, hbegan, Nat.le_refl _, Renewal.timely_start⟩
  · exact ⟨by simp [Candidacy.pursue], h.renewalBegan, h.leader, h.renewal⟩
  · exact ⟨by simp [Candidacy.pursue], h.renewalBegan, h.leader, h.renewal⟩
  · exact ⟨by simp [Candidacy.pursue], h.renewalBegan, h.leader, h.renewal⟩

theorem Timely.renew (h : c.Timely e time) {last deadline : Nat} {a : Attempt}
    (hrenewal : c.renewal = some (.attempting last deadline a)) (answer : LeaseAnswer) :
    (c.renew e time answer last deadline a).Timely e time := by
  obtain ⟨span, hheld, hspan, hended, htimely⟩ := h.renewal _ hrenewal
  have hreceive := htimely.receive hended answer
  refine ⟨h.pursuit, h.renewalBegan, fun hleader => ⟨_, rfl, (leader_settle hleader).2⟩, ?_⟩
  rintro r hr
  cases hr
  by_cases hgain : a.gains e answer = true
  · rw [if_pos hgain] at hreceive
    exact ⟨⟨c.renewalBegan, time⟩, if_pos hgain, h.renewalBegan, Nat.le_refl _, hreceive⟩
  · rw [if_neg hgain] at hreceive
    exact ⟨span, (if_neg hgain).trans hheld, hspan, hended, hreceive⟩

/-- Every move keeps the deadlines. -/
theorem Step.timely {m : Move} (hstep : Step e time m c c') (h : c.Timely e time) :
    c'.Timely e time := by
  cases hstep with
  | seek | retry =>
    refine ⟨?_, h.renewalBegan, h.leader, h.renewal⟩
    rintro began a heq
    cases heq
    exact Nat.le_refl _
  | @rise _ now last wake hrest hwake hroom =>
    obtain ⟨span, hheld, hspan, hended, htimely⟩ := h.renewal _ hrest
    have hsettle := h.settle hheld hspan hended (htimely.begin now hwake hroom)
    exact ⟨hsettle.pursuit, Nat.le_refl _, hsettle.leader, hsettle.renewal⟩
  | expire hrest hwake hover =>
    obtain ⟨span, hheld, hspan, hended, -⟩ := h.renewal _ hrest
    rw [Renewal.begin_eq_lost hover]
    exact h.settle hheld hspan hended trivial
  | learn hpursuit => exact h.pursue (h.pursuit _ _ hpursuit) _
  | renew hrenewal => exact h.renew hrenewal _
  | withdraw => exact ⟨by simp, h.renewalBegan, h.leader, h.renewal⟩
  | giveUp hrenewal hdue =>
    obtain ⟨span, hheld, hspan, hended, htimely⟩ := h.renewal _ hrenewal
    exact h.settle hheld hspan hended (htimely.giveUp hended)
  | drop => exact ⟨h.pursuit, h.renewalBegan, by simp, by simp⟩
  | stop hrenewal =>
    obtain ⟨span, hheld, hspan, hended, -⟩ := h.renewal _ hrenewal
    refine ⟨h.pursuit, h.renewalBegan, fun _ => ⟨_, rfl, nofun⟩, fun r hr => ?_⟩
    cases hr
    exact ⟨span, hheld, hspan, hended, trivial⟩

/-- Every elector keeps its deadlines at all times. -/
theorem Reachable.timely (h : Reachable e time c) : c.Timely e time := by
  induction h with
  | vacant => exact timely_vacant
  | pass _ hle hpatient ih => exact ih.pass hle hpatient
  | move _ hstep ih => exact hstep.timely ih

/-- A leader has held the lease, and not longer ago than it can go on without a renewal. -/
theorem Timely.le_reach (h : c.Timely e time) (hleads : c.Leads) :
    ∃ span, c.held = some span ∧ span.began ≤ span.ended ∧ span.ended ≤ time ∧
      time ≤ span.ended + e.timing.reach := by
  obtain ⟨-, r, hr, hgoesOn⟩ := hleads
  obtain ⟨span, hheld, hspan, hended, htimely⟩ := h.renewal r hr
  exact ⟨span, hheld, hspan, hended, htimely.le_reach hgoesOn⟩

/-! ### The attempt in progress -/

/-- An attempt in progress, with the time when it began. -/
inductive Attempting (c : Candidacy) : Nat → Attempt → Prop
  | pursuit {began : Nat} {a : Attempt} (h : c.pursuit = some (.attempting began a)) :
      Attempting c began a
  | renewal {last deadline : Nat} {a : Attempt}
      (h : c.renewal = some (.attempting last deadline a)) : Attempting c c.renewalBegan a

/-- The elector does not seek the lease while its renewals go on. -/
def Solo (c : Candidacy) : Prop := c.pursuit = none ∨ ∀ r, c.renewal = some r → ¬ r.GoesOn

/-- While the renewals go on, the elector seeks nothing. -/
theorem Solo.pursuit_eq_none (h : c.Solo) {r : Renewal} (hr : c.renewal = some r)
    (hgoesOn : r.GoesOn) : c.pursuit = none := by
  rcases h with hnone | hover
  · exact hnone
  · exact absurd hgoesOn (hover r hr)

/-- The renewals ended otherwise than by a loss. -/
def Frozen (c : Candidacy) : Prop :=
  c.renewal = some .stopped ∨ ∃ crash, c.renewal = some (.crashed crash)

/-- A leader whose renewals do not go on has renewals that are frozen. -/
theorem Timely.leads_or_frozen (h : c.Timely e time) (hleader : c.isLeader = true) :
    c.Leads ∨ c.Frozen := by
  obtain ⟨r, hr, hlost⟩ := h.leader hleader
  cases r with
  | resting | attempting => exact .inl ⟨hleader, _, hr, trivial⟩
  | lost lost => exact absurd rfl (hlost lost)
  | crashed crash => exact .inr (.inr ⟨crash, hr⟩)
  | stopped => exact .inr (.inl hr)

/-- A new attempt is the only one in progress. -/
theorem Step.begin_cases {now : Lease.Instant} (hstep : Step e time (.begin now) c c')
    (hsolo : c'.Solo) :
    (∀ began a, c'.Attempting began a → began = time ∧ a = .reading now) ∧ c'.held = c.held ∧
      (c'.Frozen → c.Frozen) := by
  cases hstep with
  | seek | retry =>
    refine ⟨fun began a ha => ?_, rfl, id⟩
    rcases ha with h | h
    · cases h
      exact ⟨rfl, rfl⟩
    · exact nomatch hsolo.pursuit_eq_none h trivial
  | rise hrest hwake hroom =>
    rw [Renewal.begin_eq_attempting hroom] at hsolo ⊢
    refine ⟨fun began a ha => ?_, rfl, fun hfrozen => ?_⟩
    · rcases ha with h | h
      · exact nomatch h.symm.trans (hsolo.pursuit_eq_none rfl trivial)
      · cases h
        exact ⟨rfl, rfl⟩
    · rcases hfrozen with h | ⟨crash, h⟩ <;> cases h

/-- No attempt is in progress where neither an acquisition nor the renewals make one. -/
theorem Attempting.not_idle {began : Nat} {a : Attempt} (h : c.Attempting began a)
    (hpursuit : ∀ began a, c.pursuit ≠ some (.attempting began a))
    (hrenewal : ∀ last deadline a, c.renewal ≠ some (.attempting last deadline a)) : False := by
  cases h with
  | pursuit h => exact hpursuit _ _ h
  | renewal h => exact hrenewal _ _ _ h

/-- What an answer to the attempt in progress changes. -/
structure Heard (e : Elector) (time began : Nat) (a : Attempt) (answer : LeaseAnswer)
    (c c' : Candidacy) : Prop where
  attempting : c.Attempting began a
  solo : c'.Solo
  goesOn : ∀ began' a', c'.Attempting began' a' → began' = began ∧ a.receive e answer = .inl a'
  held : c'.held = c.held ∨
    ∃ hold, a.receive e answer = .inr (.held hold) ∧ c'.held = some ⟨began, time⟩
  frozen : c'.Frozen → c'.held = c.held ∧ (c.Frozen ∨ ∃ last deadline crash,
    c.renewal = some (.attempting last deadline a) ∧ a.receive e answer = .inr (.crashed crash))

/-- An attempt of an acquisition that ends without the lease leaves nothing in progress. -/
theorem heard_of_pursuit_eq {answer : LeaseAnswer} {began : Nat} {a : Attempt} {p : Option Pursuit}
    (hpursuit : c.pursuit = some (.attempting began a))
    (hover : ∀ r, c.renewal = some r → ¬ r.GoesOn)
    (hp : ∀ began a, p ≠ some (.attempting began a)) :
    Heard e time began a answer c { c with pursuit := p } where
  attempting := .pursuit hpursuit
  solo := .inr hover
  goesOn _ _ h := (h.not_idle hp fun _ _ _ hr => hover _ hr trivial).elim
  held := .inl rfl
  frozen h := ⟨rfl, .inl h⟩

theorem heard_pursue {answer : LeaseAnswer} {began : Nat} {a : Attempt}
    (hpursuit : c.pursuit = some (.attempting began a)) (hsolo : c.Solo) :
    Heard e time began a answer c (c.pursue e time began (a.receive e answer)) := by
  have hover : ∀ r, c.renewal = some r → ¬ r.GoesOn := fun r hr hgoesOn =>
    nomatch hpursuit.symm.trans (hsolo.pursuit_eq_none hr hgoesOn)
  rcases hnext : a.receive e answer with a' | (hold | refusal | error | crash)
  · refine ⟨.pursuit hpursuit, .inr hover, fun began' a'' h => ?_, .inl rfl, fun h => ⟨rfl, .inl h⟩⟩
    rcases h with h | h
    · cases h
      exact ⟨rfl, hnext⟩
    · exact absurd trivial (hover _ h)
  · refine ⟨.pursuit hpursuit, .inl rfl, fun _ _ h => ?_, .inr ⟨hold, hnext, rfl⟩, fun h => ?_⟩
    · exact (h.not_idle (by simp [pursue]) (by simp [pursue, Renewal.start])).elim
    · rcases h with h | ⟨crash, h⟩ <;> cases h
  · exact heard_of_pursuit_eq hpursuit hover (by simp)
  · exact heard_of_pursuit_eq hpursuit hover (by simp)
  · exact heard_of_pursuit_eq hpursuit hover (by simp)

theorem heard_renew {answer : LeaseAnswer} {last deadline : Nat} {a : Attempt}
    (hrenewal : c.renewal = some (.attempting last deadline a)) (hsolo : c.Solo) :
    Heard e time c.renewalBegan a answer c (c.renew e time answer last deadline a) := by
  have hnone : c.pursuit = none := hsolo.pursuit_eq_none hrenewal trivial
  have hpursuit : ∀ began a', c.pursuit ≠ some (.attempting began a') := by simp [hnone]
  unfold renew
  rcases Renewal.receive_cases e time answer last deadline a with
    ⟨a', hnext, hgains, heq⟩ | ⟨hold, hnext, hgains, heq⟩ | ⟨crash, hnext, hgains, heq⟩ |
      ⟨hgains, heq⟩
  · rw [heq, hgains]
    refine ⟨.renewal hrenewal, .inl hnone, fun began' a'' h => ?_, .inl rfl, fun h => ?_⟩
    · rcases h with h | h
      · exact absurd h (hpursuit _ _)
      · cases h
        exact ⟨rfl, hnext⟩
    · rcases h with h | ⟨crash, h⟩ <;> cases h
  · rw [heq, hgains]
    refine ⟨.renewal hrenewal, .inl hnone, fun _ _ h => ?_, .inr ⟨hold, hnext, rfl⟩, fun h => ?_⟩
    · exact (h.not_idle hpursuit (by simp [Renewal.start])).elim
    · rcases h with h | ⟨crash, h⟩ <;> cases h
  · rw [heq, hgains]
    refine ⟨.renewal hrenewal, .inl hnone, fun _ _ h => ?_, .inl rfl, fun _ => ?_⟩
    · exact (h.not_idle hpursuit (by simp)).elim
    · exact ⟨rfl, .inr ⟨last, deadline, crash, hrenewal, hnext⟩⟩
  · rw [heq, hgains, Renewal.afterFailure]
    refine ⟨.renewal hrenewal, .inl hnone, fun _ _ h => ?_, .inl rfl, fun h => ?_⟩
    · exact (h.not_idle hpursuit (by simp only [renewal_settle]; split_ifs <;> simp)).elim
    · rcases h with h | ⟨crash, h⟩ <;> split_ifs at h <;> cases h

/-- An answer is always one to the attempt in progress. -/
theorem Step.heard {answer : LeaseAnswer} (hstep : Step e time (.hear answer) c c')
    (hsolo : c.Solo) : ∃ began a, Heard e time began a answer c c' := by
  cases hstep with
  | learn hpursuit => exact ⟨_, _, heard_pursue hpursuit hsolo⟩
  | renew hrenewal => exact ⟨_, _, heard_renew hrenewal hsolo⟩

/-- What ends without an answer leaves the other attempt and the lease held alone. -/
theorem Step.quit_cases (hstep : Step e time .quit c c') (hsolo : c.Solo) :
    c'.Solo ∧ (∀ began a, c'.pursuit = some (.attempting began a) →
        c.pursuit = some (.attempting began a)) ∧
      (∀ last deadline a, c'.renewal = some (.attempting last deadline a) →
        c.renewal = some (.attempting last deadline a)) ∧
      c'.renewalBegan = c.renewalBegan ∧ c'.held = c.held ∧ (c'.Frozen → c.Frozen) := by
  cases hstep with
  | expire hrest hwake hover =>
    rw [Renewal.begin_eq_lost hover]
    have hnone : c.pursuit = none := hsolo.pursuit_eq_none hrest trivial
    refine ⟨.inl hnone, fun _ _ h => h, fun _ _ _ h => ?_, rfl, rfl, fun h => ?_⟩
    · cases h
    · rcases h with h | ⟨crash, h⟩ <;> cases h
  | withdraw => exact ⟨.inl rfl, fun _ _ h => (nomatch h), fun _ _ _ h => h, rfl, rfl, id⟩
  | giveUp hrenewal hdue =>
    have hnone : c.pursuit = none := hsolo.pursuit_eq_none hrenewal trivial
    simp only [Renewal.giveUp, Renewal.afterFailure]
    refine ⟨.inl hnone, fun _ _ h => h, fun _ _ _ h => ?_, rfl, rfl, fun h => ?_⟩
    · split_ifs at h <;> cases h
    · rcases h with h | ⟨crash, h⟩ <;> split_ifs at h <;> cases h
  | drop =>
    refine ⟨.inr (by simp), fun _ _ h => h, fun _ _ _ h => ?_, rfl, rfl, fun h => ?_⟩
    · cases h
    · rcases h with h | ⟨crash, h⟩ <;> cases h

end Candidacy

end ControllerManager.Election
