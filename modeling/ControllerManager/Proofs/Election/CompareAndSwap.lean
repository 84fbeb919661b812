import ControllerManager.Proofs.Election.Contest

/-!
# Writes are compare and swap

In a contest that begins without a lease, a write of an attempt is accepted only while the store
holds the very lease that the attempt has read, or still none where it has found none. So no
takeover replaces a lease of somebody else that is live by the clock of the attempt, and the count
of transitions in the store is the number of takeovers so far.

## Main definitions

* `Election.Contest.Counted` — the stored count of transitions is the number of takeovers.

## Main results

* `Election.Contest.Step.counted` — every event keeps the count.
* `Election.Contest.write_replaces_what_was_read`.
-/

namespace ControllerManager.Election

open Cluster

/-- A count below the greatest one goes up by one. -/
theorem toInt_add_one {n : Int32} (h : n ≠ Elector.maxTransitions) :
    (n + 1).toInt = n.toInt + 1 := by
  have hne : n.toInt ≠ 2 ^ 31 - 1 := fun heq =>
    h (Int32.toInt.inj (heq.trans Int32.toInt_maxValue.symm))
  have hlt := n.toInt_lt
  have hge := n.le_toInt
  rw [Int32.toInt_add, Int32.toInt_one]
  exact Int.bmod_eq_of_le (by omega) (by omega)

namespace Contest

variable {ι : Type} {who : ι → Elector} {s s' : Contest ι}

/-- The count of transitions in the stored lease is the number of takeovers. -/
def Counted (s : Contest ι) : Prop :=
  (s.store.lease = none → s.takeovers = 0) ∧
    ∀ l, s.store.lease = some l →
      ∃ n : Int32, l.spec.bind Lease.Spec.transitions = some n ∧ n.toInt = s.takeovers

theorem counted_start : (start .empty : Contest ι).Counted :=
  ⟨fun _ => rfl, fun _ hl => nomatch hl⟩

theorem Counted.congr (h : s.Counted) (hstore : s'.store.lease = s.store.lease)
    (htakeovers : s'.takeovers = s.takeovers) : s'.Counted := by
  unfold Counted
  rw [hstore, htakeovers]
  exact h

/-- An accepted request keeps the count: creation begins it, a takeover adds one, renewals and
releases leave it alone. -/
theorem Counted.accepted (h : s.Counted) (hs : s.Sound who) {k : ι} {t : Trip}
    (htrip : s.trips k = some t) {l : Lease} (haccepted : s.store.Accepts t.errand.call l) :
    ∃ n : Int32, l.spec.bind Lease.Spec.transitions = some n ∧
      n.toInt = if t.errand.isTakeover then (s.takeovers : Int) + 1 else s.takeovers := by
  have hsound := hs.trips k t htrip
  rcases herrand : t.errand with (now | ⟨call, hold⟩) | (_ | call)
  · rw [herrand] at haccepted
    cases haccepted
  · rw [herrand] at haccepted
    have hseen := hs.lease_eq_seen htrip herrand haccepted
    have hwrites := hsound.writes_seen call hold herrand
    generalize t.seen = seen at hseen hwrites
    cases hwrites with
    | create =>
      cases haccepted
      refine ⟨0, rfl, ?_⟩
      simp [Errand.isTakeover, h.1 hseen]
    | renew hown hversion =>
      cases haccepted
      obtain ⟨n, hn, hcount⟩ := h.2 _ hseen
      refine ⟨n, ?_, by simpa [Errand.isTakeover] using hcount⟩
      obtain ⟨spec, hspec, htransitions⟩ := Option.bind_eq_some_iff.1 hn
      simp [Elector.renewedLease, hspec, htransitions]
    | takeOver hforeign hexpired hversion hroom =>
      cases haccepted
      obtain ⟨n, hn, hcount⟩ := h.2 _ hseen
      refine ⟨_, rfl, ?_⟩
      rw [toInt_add_one hroom]
      simp [Errand.isTakeover, Lease.transitions, hn, hcount]
  · rw [herrand] at haccepted
    cases haccepted
  · obtain ⟨now, rfl⟩ := hsound.clears call herrand
    rw [herrand] at haccepted
    cases haccepted with
    | patch hstored =>
      obtain ⟨n, hn, hcount⟩ := h.2 _ hstored
      refine ⟨n, ?_, by simpa [Errand.isTakeover] using hcount⟩
      obtain ⟨spec, hspec, htransitions⟩ := Option.bind_eq_some_iff.1 hn
      simp [LeaseStore.change, Lease.SpecPatch.apply, Release.clearance, hspec, htransitions]

/-- A takeover does not read. -/
theorem Sound.not_isTakeover_of_read (hs : s.Sound who) {k : ι} {t : Trip}
    (htrip : s.trips k = some t) (hread : t.errand.call = .read) :
    t.errand.isTakeover = false := by
  rcases herrand : t.errand with (now | ⟨call, hold⟩) | r
  · rfl
  · have hwrites := (hs.trips k t htrip).writes_seen call hold herrand
    rw [herrand] at hread
    exact absurd hread hwrites.call_ne_read
  · rfl

variable [DecidableEq ι]

/-- Every event keeps the count. -/
theorem Step.counted {event : Event ι} (hstep : Step who s event s') (hs : s.Sound who)
    (h : s.Counted) : s'.Counted := by
  cases hstep with
  | attempt | release | deliver | fail | abandon => exact h.congr rfl rfl
  | @serve k t htrip hmail =>
    rcases s.store.handle_cases t.errand.call with
      ⟨hread, heq⟩ | ⟨status, heq⟩ | ⟨l, extra, haccepted, heq⟩
    · have hno : t.errand.isTakeover = false := hs.not_isTakeover_of_read htrip hread
      exact h.congr (by rw [store_serve, heq]) (by simp [takeovers_serve, hno])
    · refine h.congr (by rw [store_serve, heq]) ?_
      simp [takeovers_serve, heq, LeaseStore.refuse, Except.isOk, Except.toBool]
    · obtain ⟨n, hn, hcount⟩ := h.accepted hs htrip haccepted
      refine ⟨fun hnone => ?_, fun l' hl' => ⟨n, ?_, ?_⟩⟩
      · rw [store_serve, heq] at hnone
        cases hnone
      · rw [store_serve, heq] at hl'
        exact Option.some.inj hl' ▸ hn
      · rw [hcount, takeovers_serve, heq]
        cases t.errand.isTakeover <;> simp [Except.isOk, Except.toBool]

/-- **Writes are compare and swap.** In every course of a contest that begins without a lease, a
write that the server accepts from an attempt replaces exactly the lease that this attempt has
read, or its absence; a takeover never replaces a lease that is foreign and live by the clock of
its attempt; and the stored count of transitions is the number of takeovers that were accepted. -/
theorem write_replaces_what_was_read {events : List (Event ι)}
    (hrun : Run who (start .empty) events s) :
    (∀ k t call hold answer, s.trips k = some t → t.mail = .outgoing →
      t.errand = .attempt (.writing call hold) → (s.store.handle call).2 = .ok answer →
        s.store.lease = t.seen ∧
        (t.errand.isTakeover → ∃ l, s.store.lease = some l ∧
          ¬ (l.Foreign (who k).identity ∧ l.LiveAt t.began))) ∧
      s.Counted := by
  have hinv : s.Sound who ∧ s.Counted :=
    hrun.preserves (P := fun s => s.Sound who ∧ s.Counted)
      (fun hstep h => ⟨hstep.sound h.1, hstep.counted h.1 h.2⟩)
      ⟨sound_start LeaseStore.coherent_empty, counted_start⟩
  refine ⟨fun k t call hold answer htrip _ herrand hok => ?_, hinv.2⟩
  have hwrites := (hinv.1.trips k t htrip).writes_seen call hold herrand
  obtain ⟨l, extra, haccepted, -⟩ := LeaseStore.accepts_of_handle_ok hwrites.call_ne_read hok
  have hseen := hinv.1.lease_eq_seen htrip herrand haccepted
  refine ⟨hseen, fun htakeover => ?_⟩
  rw [hseen]
  generalize t.seen = seen at hwrites
  cases hwrites with
  | create | renew => simp [herrand, Errand.isTakeover] at htakeover
  | takeOver hforeign hexpired hversion hroom =>
    exact ⟨_, rfl, Lease.not_foreign_and_liveAt hexpired⟩

/-- A contest of two rivals, in which one creates the lease and the other one finds it expired. -/
def takeover : List (Event Bool) :=
  [.attempt false 0, .serve false, .deliver false 0, .serve false,
    .attempt true 15000001, .serve true, .deliver true 15000001]

/-- The takeover that follows replaces the expired lease that it has read. -/
theorem takeover_replaces_what_was_read :
    ∃ s t, Run (rivals .standard) (start .empty) takeover s ∧ s.trips true = some t ∧
      t.errand.isTakeover = true ∧ s.store.lease = t.seen ∧ s.Counted := by
  have hcourse : ∃ s t call hold answer, Run (rivals .standard) (start .empty) takeover s ∧
      s.trips true = some t ∧ t.mail = .outgoing ∧
      t.errand = .attempt (.writing call hold) ∧ t.errand.isTakeover = true ∧
      (s.store.handle call).2 = .ok answer :=
    ⟨_, _, _, _, _,
      .cons (.attempt rfl) <| .cons (.serve rfl rfl) <| .cons (.deliver rfl rfl rfl) <|
        .cons (.serve rfl rfl) <| .cons (.attempt rfl) <| .cons (.serve rfl rfl) <|
        .cons (.deliver rfl rfl rfl) <| .nil _,
      rfl, rfl, rfl, rfl, rfl⟩
  obtain ⟨s, t, call, hold, answer, hrun, htrip, hmail, herrand, htakeover, hok⟩ := hcourse
  obtain ⟨hreplaces, hcounted⟩ := write_replaces_what_was_read hrun
  exact ⟨s, t, hrun, htrip, htakeover,
    (hreplaces true t call hold answer htrip hmail herrand hok).1, hcounted⟩

end Contest

end ControllerManager.Election
