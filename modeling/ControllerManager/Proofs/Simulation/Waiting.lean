import ControllerManager.Proofs.Simulation.Requests

/-!
# Renewals that wait

After all renewals of an instant are through, none of them has anything left to do before the clock
goes on: a rest ends later, and an attempt has sent its request, whose answer and whose deadline
come later. Rests must take some time for this.

## Main definitions

* `Election.Renewal.Waits` — nothing is left to do at a time but to send a number of requests.
* `Simulation.World.Waits` — this holds of all renewals.

## Main results

* `Simulation.World.Waits.renewAll` — after the renewals of an instant, nothing is left to do.
* `Simulation.World.Waits.lt_nextTime` — the next renewal has something to do later.
-/

namespace ControllerManager

open Cluster Election

/-- The requests that an attempt has to make before it ends. -/
def Election.Attempt.requests : Attempt → Nat
  | .reading _ => 2
  | .writing _ _ => 1

/-- Renewals with nothing to do at a time, but to send `n` requests at most. -/
def Election.Renewal.Waits (time n : Nat) (due : Option Nat) : Renewal → Prop
  | .resting _ wake => time < wake
  | .attempting _ deadline a =>
    time < deadline ∧
      match due with
      | some due => time < due
      | none => a.requests ≤ n
  | .lost _ | .crashed _ | .stopped => True

namespace Election.Renewal

variable {t : Timing} {e : Elector} {time last deadline n : Nat} {due : Option Nat}

theorem waits_start (ht : 0 < t.retryInterval) : (start t time).Waits time n due :=
  Nat.lt_add_of_pos_right ht

theorem waits_afterFailure (ht : 0 < t.retryInterval) :
    (afterFailure t last time).Waits time n due := by
  unfold afterFailure
  split_ifs
  · trivial
  · exact Nat.lt_add_of_pos_right ht

theorem waits_afterVerdict (ht : 0 < t.retryInterval) (v : Verdict) :
    (afterVerdict t last time v).Waits time n due := by
  cases v with
  | held hold => exact Nat.lt_add_of_pos_right ht
  | crashed crash => trivial
  | refused | failed => exact waits_afterFailure ht

theorem waits_begin (ht : 0 < t.retryInterval) (now : Lease.Instant) :
    (Renewal.begin t last time now).Waits time 2 none := by
  unfold Renewal.begin
  dsimp only
  split_ifs with hover
  · exact waits_afterFailure ht
  · exact ⟨Nat.lt_add_of_pos_right (Nat.pos_of_ne_zero hover), Nat.le_refl 2⟩

/-- An attempt has one request fewer to make after an answer. -/
theorem waits_receive (ht : 0 < e.timing.retryInterval) {a : Attempt} (ha : a.requests ≤ n + 1)
    (answer : LeaseAnswer) :
    (Renewal.receive e time answer (.attempting last deadline a)).Waits time n none := by
  simp only [Renewal.receive]
  rcases hnext : a.receive e answer with a' | verdict
  · dsimp only
    split_ifs with hlate
    · exact waits_afterFailure ht
    · obtain ⟨now, seen, call, hold, rfl, -, -, rfl⟩ := Attempt.eq_writing_of_receive hnext
      exact ⟨Nat.lt_of_not_le hlate, Nat.le_of_succ_le_succ ha⟩
  · exact waits_afterVerdict ht verdict

/-- Renewals that wait have something to do later. -/
theorem Waits.lt_nextTime {g : Simulation.Guard} (h : g.renewal.Waits time 0 g.due) {next : Nat}
    (hnext : Simulation.World.Guard.nextTime g = some next) : time < next := by
  unfold Simulation.World.Guard.nextTime at hnext
  cases hrenewal : g.renewal <;> rw [hrenewal] at h hnext <;> cases hnext
  · exact h
  · rename_i last deadline a
    obtain ⟨hdeadline, hdue⟩ := h
    cases hd : g.due with
    | none =>
      rw [hd] at hdue
      cases a <;> cases hdue
    | some due =>
      rw [hd] at hdue
      exact Nat.lt_min.2 ⟨hdeadline, hdue⟩

end Election.Renewal

namespace Simulation.World

variable {w : World} {c : Candidate} {n : Nat}

/-- No renewal of a candidate has anything left to do but to send `n` requests at most. -/
def WaitsAt (time n : Nat) (c : Candidate) : Prop :=
  ∀ g, c.guard = some g → g.renewal.Waits time n g.due

theorem waitsAt_renewed {g : Guard} {r : Election.Renewal} {due : Option Nat} {time : Nat}
    (h : r.Waits time n due) : WaitsAt time n (c.renewed g r due) := by
  intro g' hg'
  cases r <;> cases hg' <;> exact h

/-- A world with one candidate, whose renewals have `n` requests to send at most. -/
def SoleWaits (n : Nat) (e : Elector) (w : World) : Prop :=
  ∃ c, w.candidates = [c] ∧ c.elector = e ∧ WaitsAt w.time n c

theorem elector_renewed (g : Guard) (r : Election.Renewal) (due : Option Nat) :
    (c.renewed g r due).elector = c.elector := by
  cases r <;> rfl

theorem soleWaits_setRenewal {g : Guard} {r : Election.Renewal} {due : Option Nat}
    (hc : w.candidates = [c]) (h : r.Waits w.time n due) :
    SoleWaits n c.elector (w.setRenewal 0 c g r due) := by
  refine ⟨c.renewed g r due, ?_, elector_renewed g r due, ?_⟩
  · rw [setRenewal_candidates, setCandidate, hc]
    rfl
  · rw [setRenewal_time]
    exact waitsAt_renewed h

theorem candidate?_sole (h : w.candidates = [c]) : w.candidate? 0 = some c := by
  rw [candidate?, h]
  rfl

/-- What is due for the renewal of a candidate leaves it with two requests at most. -/
theorem soleWaits_wake (hc : w.candidates = [c]) (ht : 0 < c.elector.timing.retryInterval)
    {time : Nat} (h : WaitsAt time 0 c) : SoleWaits 2 c.elector (w.wake 0) := by
  unfold wake
  rw [candidate?_sole hc]
  dsimp only
  cases hg : c.guard with
  | none => exact ⟨c, hc, rfl, fun g hg' => nomatch hg.symm.trans hg'⟩
  | some g =>
    have hwaits := h g hg
    have hstay : g.renewal.Waits w.time 2 g.due → SoleWaits 2 c.elector w := fun hw =>
      ⟨c, hc, rfl, fun g' hg' => Option.some.inj (hg.symm.trans hg') ▸ hw⟩
    dsimp only
    cases hr : g.renewal with
    | resting last wake =>
      dsimp only
      split_ifs with hwake
      · exact soleWaits_setRenewal hc (Renewal.waits_begin ht w.now)
      · refine hstay ?_
        rw [hr]
        exact Nat.lt_of_not_le hwake
    | attempting last deadline a =>
      rw [hr] at hwaits
      cases hd : g.due with
      | none =>
        rw [hd] at hwaits
        cases a <;> cases hwaits.2
      | some due =>
        dsimp only
        split_ifs with hdue hlate
        · have ha : a.requests ≤ 2 + 1 := by cases a <;> simp [Attempt.requests]
          exact soleWaits_setRenewal (w := (w.answer a.call).1) hc (Renewal.waits_receive ht ha _)
        · exact soleWaits_setRenewal hc (Renewal.waits_afterFailure ht)
        · refine hstay ?_
          rw [hr, hd]
          exact ⟨Nat.lt_of_not_le hlate, Nat.lt_of_not_le hdue⟩
    | lost | crashed | stopped =>
      refine hstay ?_
      rw [hr]
      trivial

/-- Sending a request leaves a renewal with one fewer. -/
theorem soleWaits_sendRenewal {e : Elector} (ht : 0 < e.timing.retryInterval)
    (h : SoleWaits (n + 1) e w) : SoleWaits n e (w.sendRenewal 0) := by
  obtain ⟨c, hc, rfl, hwaits⟩ := h
  unfold sendRenewal
  rw [candidate?_sole hc]
  dsimp only
  cases hg : c.guard with
  | none => exact ⟨c, hc, rfl, fun g hg' => nomatch hg.symm.trans hg'⟩
  | some g =>
    have hw := hwaits g hg
    have hstay : g.renewal.Waits w.time n g.due → SoleWaits n c.elector w := fun hw =>
      ⟨c, hc, rfl, fun g' hg' => Option.some.inj (hg.symm.trans hg') ▸ hw⟩
    dsimp only
    split
    · rename_i last deadline a hr hd
      rw [hr, hd] at hw
      obtain ⟨hdeadline, hrequests⟩ := hw
      rcases w.send_cases c.elector a.call with
        ⟨w₁, answer, hsend, hhears⟩ | ⟨w₁, due, hsend, hsends⟩
      · rw [hsend]
        have hc₁ := hhears.candidates.trans hc
        exact soleWaits_setRenewal hc₁ (Renewal.waits_receive ht hrequests answer)
      · rw [hsend]
        have hc₁ := hsends.candidates.trans hc
        refine soleWaits_setRenewal hc₁ ?_
        rw [hr, hsends.time]
        cases hsends with
        | pending target hdue => exact ⟨hdeadline, hdue⟩
    · rename_i hidle
      refine hstay ?_
      cases hr : g.renewal with
      | attempting last deadline a =>
        rw [hr] at hw
        cases hd : g.due with
        | none => exact absurd hd (hidle last deadline a hr)
        | some due =>
          rw [hd] at hw
          exact hw
      | _ =>
        rw [hr] at hw
        exact hw

theorem ready_sole (hc : w.candidates = [c]) :
    w.ready = if (c.guard.map hasRequest).getD false then [0] else [] := by
  have hlength : w.candidates.length = 1 := by rw [hc]; rfl
  unfold ready
  rw [hlength, List.range_one, List.filter_cons, List.filter_nil, candidate?_sole hc]
  cases hg : c.guard <;> simp [hg]

/-- After as many rounds as a renewal has requests at most, it has none left. -/
theorem soleWaits_sendRounds {e : Elector} (ht : 0 < e.timing.retryInterval) (n : Nat)
    (h : SoleWaits n e w) : SoleWaits 0 e (w.sendRounds n) := by
  induction n generalizing w with
  | zero => exact h
  | succ n ih =>
    unfold sendRounds
    obtain ⟨c, hc, he, hwaits⟩ := id h
    rw [ready_sole hc]
    split_ifs with hrequest
    · exact ih (soleWaits_sendRenewal ht h)
    · refine ⟨c, hc, he, fun g hg => ?_⟩
      have hw := hwaits g hg
      have hsent : hasRequest g = false := by simpa [hg] using hrequest
      cases hr : g.renewal with
      | attempting last deadline a =>
        rw [hr] at hw
        cases hd : g.due with
        | none =>
          rw [hasRequest, hr, hd] at hsent
          cases hsent
        | some due =>
          rw [hd] at hw
          exact hw
      | _ =>
        rw [hr] at hw
        exact hw

/-- **After the renewals of an instant, nothing is left to do** before the clock goes on, if nothing
was left at an earlier time. -/
theorem SoleWaits.renewAll {e : Elector} {time : Nat} (h : SoleWaits 0 e w)
    (ht : 0 < e.timing.retryInterval) : SoleWaits 0 e (renewAll { w with time := time }) := by
  obtain ⟨c, hc, rfl, hwaits⟩ := h
  have hlength : ({ w with time := time } : World).candidates.length = 1 := by rw [hc]; rfl
  rw [World.renewAll, hlength, List.range_one, List.foldl_cons, List.foldl_nil]
  exact soleWaits_sendRounds ht 2 (soleWaits_wake hc ht hwaits)

end Simulation.World

end ControllerManager
