import ControllerManager.Proofs.Election.Candidacy

/-!
# How long a lease covers its leader

A lease lasts for its duration from the beginning of the attempt that wrote it. Its leader counts
from the end of that attempt, and nothing bounds the time that an attempt takes. A leader therefore
stays covered exactly if the time that the attempt took, and the time for which the leader can go
on without a renewal, fit into the duration together.

## Main results

* `Election.Candidacy.exists_leads_reach` — a leader can go on for that long.
* `Election.Candidacy.leader_covered_iff`.
-/

namespace ControllerManager.Election.Candidacy

open Cluster

variable {e : Elector}

/-! ### Leaders at the end of their reach -/

/-- The answer to the first write can take any time. -/
theorem reachable_elected (latency : Nat) : Reachable e latency (elected e ⟨0, latency⟩) := by
  have hwrites : e.Writes 0 LeaseStore.empty.lease (.create (e.freshLease 0 0 none)) .created :=
    .create
  have hseek : Reachable e 0 (seeking 0 (.reading 0)) := .move .vacant (step_seeking 0)
  have hread := hseek.move (step_seeking_writing hwrites.receive_stored)
  have hwait := hread.pass (Nat.zero_le latency) (by simp [seeking, vacant])
  exact hwait.move (step_elected (l := e.freshLease 0 0 none))

/-- A leader that begins to renew its lease as soon as it can. -/
theorem exists_attempting (latency : Nat)
    (hroom : e.timing.retryInterval < e.timing.renewDeadline) :
    ∃ c, Reachable e (latency + e.timing.retryInterval) c ∧ c.isLeader = true ∧
      c.held = some ⟨0, latency⟩ ∧
      c.renewal = some (.attempting latency (latency + e.timing.renewDeadline) (.reading 0)) := by
  have hrest : Reachable e (latency + e.timing.retryInterval) (elected e ⟨0, latency⟩) := by
    refine (reachable_elected latency).pass (Nat.le_add_right _ _) ?_
    rintro r hr
    cases hr
    exact Nat.le_refl _
  have hleft : latency + e.timing.retryInterval - latency < e.timing.renewDeadline := by omega
  have hrise := hrest.move
    (Step.rise rfl (Nat.le_refl _) hleft : Step _ _ (.begin 0) _ _)
  rw [Renewal.begin_eq_attempting hleft, show latency + e.timing.retryInterval +
    (e.timing.renewDeadline - (latency + e.timing.retryInterval - latency)) =
      latency + e.timing.renewDeadline by omega] at hrise
  exact ⟨_, hrise, rfl, rfl, rfl⟩

/-- A renewal that fails before its time is over is followed by one more rest. -/
theorem renew_eq_resting {c : Candidacy} {time last deadline : Nat} {now : Lease.Instant}
    (hroom : time - last < e.timing.renewDeadline) :
    c.renew e time (.error (.unreachable "")) last deadline (.reading now) =
      { c with renewal := some (.resting last (time + e.timing.retryInterval)) } := by
  have hfail : Renewal.receive e time (.error (.unreachable ""))
      (.attempting last deadline (.reading now)) = .afterFailure e.timing last time := rfl
  have hlose : Attempt.gains e (.error (.unreachable "")) (.reading now) = false := rfl
  unfold renew
  rw [hfail, hlose, Renewal.afterFailure, if_neg (by omega)]
  rfl

/-- A leader can go on without a renewal for as long as the reach says. -/
theorem exists_leads_reach (e : Elector) (latency : Nat) :
    ∃ c, Reachable e (latency + e.timing.reach) c ∧ c.Leads ∧ c.held = some ⟨0, latency⟩ := by
  by_cases hroom : e.timing.retryInterval < e.timing.renewDeadline
  · obtain ⟨c, hc, hleader, hheld, hrenewal⟩ := exists_attempting latency hroom
    have hpatient : ∀ later ≤ latency + e.timing.renewDeadline,
        ∀ r, c.renewal = some r → r.Patient later := by
      rintro later hle r hr
      rw [hrenewal] at hr
      cases hr
      exact hle
    by_cases hretry : e.timing.retryInterval ≤ 1
    · -- The renewal takes all of its time.
      have hreach : e.timing.reach = e.timing.renewDeadline := by
        unfold Timing.reach
        rw [if_pos hroom]
        omega
      rw [hreach]
      exact ⟨c, hc.pass (by omega) (hpatient _ (Nat.le_refl _)),
        ⟨hleader, _, hrenewal, trivial⟩, hheld⟩
    · -- The renewal fails just before its time is over, and the leader rests once more.
      have hreach : latency + e.timing.reach =
          latency + e.timing.renewDeadline - 1 + e.timing.retryInterval := by
        unfold Timing.reach
        rw [if_pos hroom]
        omega
      have hlate := hc.pass (show _ ≤ latency + e.timing.renewDeadline - 1 by omega)
        (hpatient _ (by omega))
      have hfail := hlate.move
        (Step.renew hrenewal : Step _ _ (.hear (.error (.unreachable ""))) _ _)
      rw [renew_eq_resting (by omega)] at hfail
      rw [hreach]
      refine ⟨_, hfail.pass (Nat.le_add_right _ _) ?_, ⟨hleader, _, rfl, trivial⟩, hheld⟩
      rintro r hr
      cases hr
      exact Nat.le_refl _
  · have hreach : e.timing.reach = e.timing.retryInterval := if_neg hroom
    rw [hreach]
    refine ⟨elected e ⟨0, latency⟩, (reachable_elected latency).pass (Nat.le_add_right _ _) ?_,
      ⟨rfl, _, rfl, trivial⟩, rfl⟩
    rintro r hr
    cases hr
    exact Nat.le_refl _

/-! ### Coverage -/

/-- **When a leader is covered by its lease.** A leader whose renewals go on has held the lease, and
not longer ago than it can go on without a renewal. Where the attempt that gained it took `latency`
nanoseconds, all such leaders are within the duration of the lease from the beginning of that
attempt exactly if the latency and the reach fit into the duration. A leader whose renewals crashed
stays a leader without any bound. -/
theorem leader_covered_iff (e : Elector) (latency : Nat) :
    (∀ time c, Reachable e time c → c.Leads → ∃ span, c.held = some span ∧
        span.began ≤ span.ended ∧ span.ended ≤ time ∧ time ≤ span.ended + e.timing.reach) ∧
      ((∀ time c span, Reachable e time c → c.Leads → c.held = some span →
          span.ended = span.began + latency → time ≤ span.began + e.timing.leaseDuration) ↔
        latency + e.timing.reach ≤ e.timing.leaseDuration) ∧
      ∀ time c crash later, Reachable e time c → c.isLeader = true →
        c.renewal = some (.crashed crash) → time ≤ later → Reachable e later c := by
  refine ⟨fun time c hc hleads => hc.timely.le_reach hleads, ⟨fun h => ?_, ?_⟩, ?_⟩
  · obtain ⟨c, hc, hleads, hheld⟩ := exists_leads_reach e latency
    simpa using h _ c _ hc hleads hheld (Nat.zero_add _).symm
  · rintro hfits time c span hc hleads hheld hspan
    obtain ⟨span', hheld', -, -, hle⟩ := hc.timely.le_reach hleads
    obtain rfl : span = span' := Option.some.inj (hheld.symm.trans hheld')
    omega
  · rintro time c crash later hc - hrenewal hle
    refine hc.pass hle fun r hr => ?_
    rw [hrenewal] at hr
    cases hr
    trivial

/-- With the standard durations a leader whose first write took sixteen seconds is not covered,
although the deadline and a rest are shorter than the lease. -/
theorem leader_not_covered_after_slow_write :
    Timing.standard.renewDeadline + Timing.standard.retryInterval < Timing.standard.leaseDuration ∧
      ∃ e c span, e.timing = Timing.standard ∧ Reachable e (16 * Timing.perSecond) c ∧ c.Leads ∧
        c.held = some span ∧ ¬ 16 * Timing.perSecond ≤ span.began + e.timing.leaseDuration :=
  ⟨by decide, ⟨"me", Elector.standardLease, "default", .standard⟩, _, _, rfl,
    reachable_elected (16 * Timing.perSecond), ⟨rfl, _, rfl, trivial⟩, rfl, by decide⟩

end ControllerManager.Election.Candidacy
