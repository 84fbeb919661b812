import ControllerManager.Election.Renewal
import Mathlib.Data.List.Induction
import Mathlib.Tactic.SplitIfs

/-!
# The flag of an elector

An elector shows by one flag whether it is the leader, and records every change of it. The flag is
set when the elector gains the lease, and cleared when the renewals of any guard give up and when
any guard is dropped. There can be several guards at a time, as an elector can gain the lease again
while an earlier guard is still held.

## Main definitions

* `Election.Standing` — what an elector shows, and its guards.
* `Election.Standing.Event` — what can happen to it.
* `Election.Standing.run` — the elector after a sequence of events.
* `Election.Standing.Truthful` — the flag says whether some guard leads.
* `Election.Standing.Ends` — an event by which a guard stops leading.

## Main results

* `Election.Standing.sound_run` — a flag that is set is true, and it is what was recorded.
* `Election.Standing.truthful_run_iff` — when the flag is always true.
-/

namespace ControllerManager.Election

open Cluster

/-- What makes renewals move. -/
inductive Stimulus where
  /-- A rest ends at `time`, when the wall clock shows `now`. -/
  | rise (time : Nat) (now : Lease.Instant)
  /-- An answer comes at `time`. -/
  | hear (time : Nat) (answer : LeaseAnswer)
  /-- The time for an attempt ends. -/
  | tire (time : Nat)

/-- The renewals after a stimulus. What does not apply changes nothing. -/
def Renewal.stir (e : Elector) : Stimulus → Renewal → Renewal
  | .rise time now, .resting last _ => .begin e.timing last time now
  | .rise _ _, r => r
  | .hear time answer, r => .receive e time answer r
  | .tire time, r => .giveUp e.timing time r

/-- A guard that was handed out and not dropped yet. -/
structure Holding where
  renewal : Renewal
  /-- Whether its renewals have given up. -/
  gaveUp : Bool

/-- What an elector shows, and the guards that it has handed out, the first one first. -/
structure Standing where
  isLeader : Bool
  /-- The leadership that was recorded last. -/
  recorded : Option Bool
  holdings : List Holding

namespace Standing

/-- The elector before it gains the lease for the first time. -/
def vacant : Standing := ⟨false, none, []⟩

/-- The elector after it gained the lease, with another guard. -/
def gain (t : Timing) (time : Nat) (s : Standing) : Standing :=
  ⟨true, some true, s.holdings ++ [⟨.start t time, false⟩]⟩

/-- The elector after the renewals of a guard moved on. A loss clears the flag, whatever other
guards there are. -/
def settle (i : Nat) (h : Holding) (r : Renewal) (s : Standing) : Standing :=
  match r with
  | .lost _ => ⟨false, some false, s.holdings.set i ⟨r, true⟩⟩
  | _ => { s with holdings := s.holdings.set i { h with renewal := r } }

/-- The elector after a guard was dropped. This clears the flag, whatever other guards there are. -/
def drop (i : Nat) (s : Standing) : Standing := ⟨false, some false, s.holdings.eraseIdx i⟩

/-- What can happen to an elector. Guards are named by their places among those not dropped. A
release is a stop and, after the requests for it, a drop. -/
inductive Event where
  | gain (time : Nat)
  | renew (i : Nat) (stimulus : Stimulus)
  /-- Somebody learns that the leadership of a guard was lost. -/
  | seeLoss (i : Nat)
  /-- The renewals of a guard are stopped. -/
  | stop (i : Nat)
  | drop (i : Nat)

/-- The elector after an event. Renewals that are over move no more. -/
def after (e : Elector) (s : Standing) : Event → Standing
  | .gain time => s.gain e.timing time
  | .renew i stimulus =>
    match s.holdings[i]? with
    | some h => if h.renewal.isOver then s else s.settle i h (h.renewal.stir e stimulus)
    | none => s
  | .seeLoss _ => s
  | .stop i =>
    match s.holdings[i]? with
    | some h => { s with holdings := s.holdings.set i { h with renewal := .stopped } }
    | none => s
  | .drop i => if i < s.holdings.length then s.drop i else s

/-- The elector after a sequence of events. -/
def run (e : Elector) (events : List Event) : Standing := events.foldl (after e) vacant

/-- Some guard was not dropped, and its renewals have not given up. -/
def Led (s : Standing) : Prop := ∃ h ∈ s.holdings, h.gaveUp = false

/-- The flag says whether some guard leads. -/
def Truthful (s : Standing) : Prop := s.isLeader = true ↔ s.Led

/-- The renewals of a guard have given up when they are lost, as far as they were not stopped. -/
def Honest (s : Standing) : Prop :=
  ∀ h ∈ s.holdings, h.renewal ≠ .stopped → (h.gaveUp = true ↔ ∃ time, h.renewal = .lost time)

/-- A flag that is set is true, and what was recorded is the flag. -/
structure Sound (s : Standing) : Prop where
  led : s.isLeader = true → s.Led
  recorded : ∀ shown, s.recorded = some shown → shown = s.isLeader
  honest : s.Honest

/-- An event by which a guard stops leading: it is dropped, or its renewals give up. -/
inductive Ends (e : Elector) (s : Standing) : Event → Prop
  | lose {i : Nat} {stimulus : Stimulus} {h : Holding} {time : Nat} (hh : s.holdings[i]? = some h)
      (hruns : h.renewal.isOver = false) (hlost : h.renewal.stir e stimulus = .lost time) :
      Ends e s (.renew i stimulus)
  | drop {i : Nat} (hi : i < s.holdings.length) : Ends e s (.drop i)

variable {e : Elector} {s : Standing} {event : Event}

theorem run_concat (e : Elector) (events : List Event) (event : Event) :
    run e (events ++ [event]) = (run e events).after e event := by
  simp [run]

/-! ### Single events -/

theorem led_iff (s : Standing) : s.Led ↔ false ∈ s.holdings.map Holding.gaveUp := by
  simp [Led, List.mem_map]

/-- Guards lead as before when the renewals of one of them move on without giving up. -/
theorem led_set_iff {i : Nat} {h : Holding} (hh : s.holdings[i]? = some h) (r : Renewal) :
    Led { s with holdings := s.holdings.set i { h with renewal := r } } ↔ s.Led := by
  obtain ⟨hi, rfl⟩ := List.getElem?_eq_some_iff.1 hh
  have hlt : i < (s.holdings.map Holding.gaveUp).length := by simpa using hi
  have hsame : (s.holdings.map Holding.gaveUp)[i] = s.holdings[i].gaveUp := List.getElem_map _
  rw [led_iff, led_iff]
  show false ∈ (s.holdings.set i _).map Holding.gaveUp ↔ _
  rw [List.map_set, ← hsame, List.set_getElem_self]

/-- Renewals that go on leave the flag alone. -/
theorem settle_of_ne_lost {i : Nat} {h : Holding} {r : Renewal} (hr : ∀ time, r ≠ .lost time) :
    s.settle i h r = { s with holdings := s.holdings.set i { h with renewal := r } } := by
  cases r with
  | lost time => exact absurd rfl (hr time)
  | resting | attempting | crashed | stopped => rfl

/-- What an event does to the flag. -/
inductive Effect (e : Elector) (s : Standing) (event : Event) (s' : Standing) : Prop
  /-- It clears the flag, whatever other guards there are. -/
  | clear (hends : s.Ends e event) (hleader : s'.isLeader = false)
      (hrecorded : s'.recorded = some false)
  /-- It sets the flag for a new guard. -/
  | set (hends : ¬ s.Ends e event) (hleader : s'.isLeader = true)
      (hrecorded : s'.recorded = some true) (hled : s'.Led)
  /-- It leaves the flag alone, and no guard starts or stops leading. -/
  | keep (hends : ¬ s.Ends e event) (hleader : s'.isLeader = s.isLeader)
      (hrecorded : s'.recorded = s.recorded) (hled : s'.Led ↔ s.Led)

/-- **The flag is cleared where a guard stops leading, set where the lease is gained, and left alone
otherwise.** -/
theorem effect (e : Elector) (s : Standing) (event : Event) :
    s.Effect e event (s.after e event) := by
  cases event with
  | gain time =>
    refine .set (fun h => nomatch h) rfl rfl ⟨⟨.start e.timing time, false⟩, ?_, rfl⟩
    exact List.mem_append_right _ List.mem_cons_self
  | renew i stimulus =>
    cases hh : s.holdings[i]? with
    | none =>
      simp only [after, hh]
      refine .keep (fun hends => ?_) rfl rfl Iff.rfl
      cases hends with
      | lose hh' => exact nomatch hh.symm.trans hh'
    | some h =>
      simp only [after, hh]
      split_ifs with hover
      · refine .keep (fun hends => ?_) rfl rfl Iff.rfl
        cases hends with
        | lose hh' hruns =>
          obtain rfl := Option.some.inj (hh.symm.trans hh')
          exact nomatch hover.symm.trans hruns
      · by_cases hlost : ∃ time, h.renewal.stir e stimulus = .lost time
        · obtain ⟨time, hlost⟩ := hlost
          rw [hlost]
          exact .clear (.lose hh (Bool.not_eq_true _ ▸ hover) hlost) rfl rfl
        · have hlost : ∀ time, h.renewal.stir e stimulus ≠ .lost time := not_exists.1 hlost
          rw [settle_of_ne_lost hlost]
          refine .keep (fun hends => ?_) rfl rfl (led_set_iff hh _)
          cases hends with
          | lose hh' _ hlost' =>
            obtain rfl := Option.some.inj (hh.symm.trans hh')
            exact hlost _ hlost'
  | seeLoss i => exact .keep (fun h => nomatch h) rfl rfl Iff.rfl
  | stop i =>
    cases hh : s.holdings[i]? with
    | none =>
      simp only [after, hh]
      exact .keep (fun h => nomatch h) rfl rfl Iff.rfl
    | some h =>
      simp only [after, hh]
      exact .keep (fun h => nomatch h) rfl rfl (led_set_iff hh _)
  | drop i =>
    simp only [after]
    split_ifs with hi
    · exact .clear (.drop hi) rfl rfl
    · refine .keep (fun hends => ?_) rfl rfl Iff.rfl
      cases hends with
      | drop hi' => exact hi hi'

/-- **A flag stays true where it was, unless another guard leads when one stops.** -/
theorem truthful_after_iff (h : s.Truthful) :
    (s.after e event).Truthful ↔ (s.Ends e event → ¬ (s.after e event).Led) := by
  cases effect e s event with
  | clear hends hleader =>
    have hiff : (s.after e event).Truthful ↔ ¬ (s.after e event).Led := by
      simp [Truthful, hleader]
    exact hiff.trans ⟨fun hled _ => hled, fun hled => hled hends⟩
  | set hends hleader hrecorded hled =>
    exact iff_of_true (iff_of_true hleader hled) fun h => absurd h hends
  | keep hends hleader hrecorded hled =>
    refine iff_of_true ?_ fun h => absurd h hends
    rwa [Truthful, hleader, hled]

theorem Honest.set (hs : s.Honest) {i : Nat} {h : Holding}
    (hh : h.renewal ≠ .stopped → (h.gaveUp = true ↔ ∃ time, h.renewal = .lost time)) :
    ∀ h' ∈ s.holdings.set i h, h'.renewal ≠ .stopped →
      (h'.gaveUp = true ↔ ∃ time, h'.renewal = .lost time) := by
  intro h' hmem
  rcases List.mem_or_eq_of_mem_set hmem with hmem | rfl
  · exact hs h' hmem
  · exact hh

theorem Honest.after (hs : s.Honest) (e : Elector) (event : Event) : (s.after e event).Honest := by
  cases event with
  | gain time =>
    intro h hmem hstopped
    rcases List.mem_append.1 hmem with hmem | hmem
    · exact hs h hmem hstopped
    · rw [List.mem_singleton.1 hmem]
      exact iff_of_false (fun h => nomatch h) fun ⟨_, h⟩ => nomatch h
  | renew i stimulus =>
    cases hh : s.holdings[i]? with
    | none =>
      simp only [Standing.after, hh]
      exact hs
    | some h =>
      simp only [Standing.after, hh]
      split_ifs with hover
      · exact hs
      · -- Renewals that go on have not given up before.
        have hgoesOn : h.gaveUp = false := by
          have hiff := hs h (List.mem_of_getElem? hh) fun h => hover (by rw [h]; rfl)
          refine Bool.eq_false_iff.2 fun hgaveUp => ?_
          obtain ⟨time, hlost⟩ := hiff.1 hgaveUp
          exact hover (by rw [hlost]; rfl)
        cases hr : h.renewal.stir e stimulus with
        | lost time => exact hs.set fun _ => iff_of_true rfl ⟨time, rfl⟩
        | resting | attempting | crashed | stopped =>
          refine hs.set fun _ => iff_of_false ?_ fun ⟨_, h⟩ => nomatch h
          exact fun hgaveUp => nomatch hgoesOn.symm.trans hgaveUp
  | seeLoss i => exact hs
  | stop i =>
    cases hh : s.holdings[i]? with
    | none =>
      simp only [Standing.after, hh]
      exact hs
    | some h =>
      simp only [Standing.after, hh]
      exact hs.set fun hstopped => absurd rfl hstopped
  | drop i =>
    simp only [Standing.after]
    split_ifs
    · exact fun h hmem => hs h (List.mem_of_mem_eraseIdx hmem)
    · exact hs

/-- An event keeps a sound flag sound. -/
theorem Sound.after (h : s.Sound) (e : Elector) (event : Event) : (s.after e event).Sound := by
  have hhonest := h.honest.after e event
  cases effect e s event with
  | clear hends hleader hrecorded =>
    refine ⟨fun h => ?_, fun shown hshown => ?_, hhonest⟩
    · rw [hleader] at h
      cases h
    · rw [hrecorded] at hshown
      rw [hleader, ← Option.some.inj hshown]
  | set hends hleader hrecorded hled =>
    refine ⟨fun _ => hled, fun shown hshown => ?_, hhonest⟩
    rw [hrecorded] at hshown
    rw [hleader, ← Option.some.inj hshown]
  | keep hends hleader hrecorded hled =>
    refine ⟨fun h' => hled.2 (h.led (hleader ▸ h')), fun shown hshown => ?_, hhonest⟩
    rw [hleader]
    exact h.recorded shown (hrecorded ▸ hshown)

/-! ### Sequences of events -/

/-- **A flag that is set is true**, and what was recorded is the flag. -/
theorem sound_run (e : Elector) (events : List Event) : (run e events).Sound := by
  induction events using List.reverseRecOn with
  | nil => exact ⟨(fun h => nomatch h), (fun _ h => nomatch h), fun _ h => nomatch h⟩
  | append_singleton events event ih =>
    rw [run_concat]
    exact ih.after e event

theorem truthful_vacant : vacant.Truthful := by
  simp [Truthful, Led, vacant]

/-- **When the flag is always true**: where no guard stops leading while another one leads. -/
theorem truthful_run_iff (e : Elector) (events : List Event) :
    (∀ before, before <+: events → (run e before).Truthful) ↔
      ∀ before event, before ++ [event] <+: events → (run e before).Ends e event →
        ¬ (run e (before ++ [event])).Led := by
  constructor
  · intro htrue before event hprefix hends
    have hbefore := htrue before ((List.prefix_append _ _).trans hprefix)
    have hafter := htrue _ hprefix
    rw [run_concat] at hafter ⊢
    exact (truthful_after_iff hbefore).1 hafter hends
  · intro halone before
    induction before using List.reverseRecOn with
    | nil => exact fun _ => truthful_vacant
    | append_singleton before event ih =>
      intro hprefix
      have hends := halone before event hprefix
      rw [run_concat] at hends ⊢
      exact (truthful_after_iff (ih ((List.prefix_append _ _).trans hprefix))).2 hends

end Standing

end ControllerManager.Election
