import ControllerManager.Proofs.Election.Campaign
import Mathlib.Algebra.Group.Nat.Defs
import Mathlib.Logic.Function.Basic

/-!
# At most one leader

Where the time that attempts take, the deadline and a rest fit into the duration of a lease, no two
electors of a campaign are leaders at the same time, provided that the duration is stored as it
was chosen. It is stored as seconds in 32 binary digits; from 2 ^ 31 seconds on, another elector
finds the lease expired while its holder is still the leader.

## Main definitions

* `Election.Campaign.Exclusive` — with some timing, no campaign ever has two leaders.

## Main results

* `Election.Campaign.Inv.holds_of_isLeader` — the stored lease is that of every leader.
* `Election.Campaign.exclusive_iff`.
-/

namespace ControllerManager.Election.Campaign

open Cluster

/-- With this timing no campaign has two leaders, if each leader gained its lease by an attempt that
took at most `latency` nanoseconds. The electors have different names, and none of them holds the
lease at the beginning. -/
def Exclusive (timing : Timing) (latency : Nat) : Prop :=
  ∀ (ι : Type) [DecidableEq ι] (who : ι → Elector) (origin : Lease.Instant) (store : LeaseStore)
    (s : Campaign ι), (∀ i j, (who i).identity = (who j).identity → i = j) →
    (∀ i, (who i).timing = timing) → store.Coherent →
    (∀ i l, store.lease = some l → l.holder? ≠ some (who i).identity) →
    Reachable who origin store s →
    (∀ i span, (s.seats i).held = some span → span.ended ≤ span.began + latency) →
    ∀ i j, (s.seats i).isLeader = true → (s.seats j).isLeader = true → i = j

variable {ι : Type} [DecidableEq ι] {who : ι → Elector} {origin : Lease.Instant}
  {store : LeaseStore} {s : Campaign ι}

/-! ### Exclusion -/

omit [DecidableEq ι] in
/-- A leader whose lease was long enough is the holder of the stored lease. -/
theorem Inv.holds_of_isLeader (h : s.Inv who origin) {i : ι} (hleader : (s.seats i).isLeader = true)
    (htight : ¬ (s.seats i).Loose (who i)) :
    ∃ l, s.contest.store.lease = some l ∧ l.holder? = some (who i).identity := by
  rcases (h.seats i).timely.leads_or_frozen hleader with hleads | hfrozen
  · obtain ⟨span, hheld, -, -, hle⟩ := (h.seats i).timely.le_reach hleads
    have hreach := (who i).timing.reach_le
    exact (h.loose_or_holds hheld (by omega)).resolve_left htight
  · exact absurd ((h.seats i).frozen hfrozen) htight

/-- Whole seconds below 2 ^ 31 are stored as they are. -/
theorem leaseSeconds_toInt {timing : Timing} {seconds : Nat}
    (hduration : timing.leaseDuration = Timing.perSecond * seconds) (hlt : seconds < 2 ^ 31) :
    timing.leaseSeconds.toInt = seconds := by
  unfold Timing.leaseSeconds
  rw [hduration, Nat.mul_div_cancel_left _ (by decide), Int32.toInt_ofNat_of_lt hlt]

theorem exclusive_of_lt {timing : Timing} {seconds latency : Nat}
    (hduration : timing.leaseDuration = Timing.perSecond * seconds) (hlt : seconds < 2 ^ 31)
    (hfits : latency + timing.renewDeadline + timing.retryInterval ≤ timing.leaseDuration) :
    Exclusive timing latency := by
  intro ι _ who origin store s hid htiming hstore hfree hs hlatency i j hi hj
  have hinv := hs.inv hid (fun i j => (htiming i).trans (htiming j).symm) hstore hfree
  have htight : ∀ i, ¬ (s.seats i).Loose (who i) := by
    rintro i ⟨span, hheld, hloose⟩
    have hspan := hlatency i span hheld
    rw [htiming i, leaseSeconds_toInt hduration hlt] at hloose
    omega
  obtain ⟨l, hlease, hholder⟩ := hinv.holds_of_isLeader hi (htight i)
  obtain ⟨l', hlease', hholder'⟩ := hinv.holds_of_isLeader hj (htight j)
  obtain rfl : l = l' := Option.some.inj (hlease.symm.trans hlease')
  exact hid i j (Option.some.inj (hholder.symm.trans hholder'))

/-! ### Attempts that are answered at once -/

/-- A request of an attempt that is served and whose answer is learned at once. -/
theorem Reachable.exchange (h : Reachable who origin store s) {i : ι} {t : Trip} {c : Candidacy}
    (htrip : s.contest.trips (i, s.begun i) = some t) (hmail : t.mail = .outgoing)
    {a : Attempt} (herrand : t.errand = .attempt a)
    (hmove : Candidacy.Step (who i) s.time (.hear (s.contest.store.handle a.call).2)
      (s.seats i) c) :
    ∃ s', Reachable who origin store s' ∧ s'.time = s.time ∧
      s'.seats = Function.update s.seats i c ∧
      s'.contest.store = (s.contest.store.handle a.call).1 ∧
      ∀ a', a.receive (who i) (s.contest.store.handle a.call).2 = .inl a' →
        ∃ t', s'.contest.trips (i, s'.begun i) = some t' ∧ t'.mail = .outgoing ∧
          t'.errand = .attempt a' := by
  have hserve := h.step (.serve htrip hmail)
  have hcall : t.errand.call = a.call := by
    rw [herrand]
    rfl
  rw [← hcall] at hmove ⊢
  refine ⟨_, hserve.step (.hear (Contest.trips_serve_self _ _) (.inl rfl) hmove),
    rfl, rfl, rfl, fun a' hnext => ⟨_, Contest.trips_setTrip_self _ _, ?_⟩⟩
  have hserved : ({ t with mail := .answered (s.contest.store.handle t.errand.call).2 } :
      Trip).errand = .attempt a := herrand
  rw [Trip.hear_of_inl hserved hnext]
  exact ⟨rfl, rfl⟩

/-- An elector that has done nothing yet gains the lease at once, where its write follows from the
stored lease and is accepted. -/
theorem Reachable.acquire (h : Reachable who origin store s) {i : ι} (hseat : s.seats i = .vacant)
    {call : LeaseCall} {hold : Hold} {l l' : Lease} {extra : List (String × Json)}
    (hwrites : (who i).Writes (origin.after s.time) s.contest.store.lease call hold)
    (haccepted : s.contest.store.handle call = (s.contest.store.put l extra, .ok l')) :
    ∃ s', Reachable who origin store s' ∧ s'.time = s.time ∧
      s'.seats = Function.update s.seats i (.elected (who i) ⟨s.time, s.time⟩) ∧
      s'.contest.store = s.contest.store.put l extra := by
  have hsolo : ∀ a, (Candidacy.seeking s.time a).Solo := fun a =>
    .inr (by simp [Candidacy.seeking, Candidacy.vacant])
  have hbegin := h.step (.begin (hseat ▸ Candidacy.step_seeking (origin.after s.time)) (hsolo _))
  -- The lease is read.
  have hread := hwrites.receive_stored
  have hsent : (s.begin origin i (.seeking s.time (.reading (origin.after s.time)))).contest.trips
      (i, (s.begin origin i (.seeking s.time (.reading (origin.after s.time)))).begun i) =
        some (.attempt (origin.after s.time)) := by
    simp [Campaign.begin]
  obtain ⟨s₁, hs₁, htime₁, hseats₁, hstore₁, hgoesOn⟩ := hbegin.exchange hsent rfl rfl
    (show Candidacy.Step _ _ (.hear s.contest.store.stored) (Function.update s.seats i _ i) _ by
      rw [Function.update_self]
      exact Candidacy.step_seeking_writing hread)
  -- It is written.
  obtain ⟨t, htrip, hmail, herrand⟩ := hgoesOn _ hread
  have hstore₁ : s₁.contest.store = s.contest.store := hstore₁
  have hanswer : (s₁.contest.store.handle (Attempt.writing call hold).call).2 = .ok l' := by
    rw [hstore₁]
    exact congrArg Prod.snd haccepted
  obtain ⟨s₂, hs₂, htime₂, hseats₂, hstore₂, -⟩ := hs₁.exchange htrip hmail herrand
    (show Candidacy.Step _ _ _ _ _ by
      rw [hanswer, hseats₁, Function.update_self, htime₁]
      exact Candidacy.step_elected)
  refine ⟨s₂, hs₂, htime₂.trans htime₁, ?_, ?_⟩
  · rw [hseats₂, hseats₁]
    simp [Campaign.begin, setSeat]
  · rw [hstore₂, hstore₁]
    exact congrArg Prod.fst haccepted

/-- A leader that began to renew its lease as soon as it had gained it. -/
def renewing (e : Elector) (time : Nat) (now : Lease.Instant) : Candidacy :=
  { Candidacy.elected e ⟨time, time⟩ with
    renewal := some (.attempting time (time + e.timing.renewDeadline) (.reading now))
    renewalBegan := time }

/-- A leader that does not rest begins to renew its lease at once. -/
theorem step_renewing {e : Elector} {time : Nat} (now : Lease.Instant)
    (hretry : e.timing.retryInterval = 0) (hroom : 0 < e.timing.renewDeadline) :
    Candidacy.Step e time (.begin now) (.elected e ⟨time, time⟩) (renewing e time now) := by
  have hleft : time - time < e.timing.renewDeadline := by omega
  have hrise : Candidacy.Step e time (.begin now) (.elected e ⟨time, time⟩)
      { (Candidacy.elected e ⟨time, time⟩).settle (.begin e.timing time time now) with
        renewalBegan := time } := .rise rfl (Nat.le_of_eq (congrArg (time + ·) hretry)) hleft
  rwa [Renewal.begin_eq_attempting hleft, Nat.sub_self, Nat.sub_zero] at hrise

/-- A campaign in which the first of two rivals creates the lease and at once begins to renew it. -/
theorem exists_renewing {timing : Timing} (hretry : timing.retryInterval = 0)
    (hroom : 0 < timing.renewDeadline) :
    ∃ s, Reachable (Contest.rivals timing) 0 .empty s ∧ s.time = 0 ∧
      s.contest.store = Contest.heldByFirst timing ∧
      s.seats = Function.update (fun _ => .vacant) false
        (renewing (Contest.rivals timing false) 0 0) := by
  obtain ⟨s, hs, htime, hseats, hstore⟩ :=
    (Reachable.start : Reachable (Contest.rivals timing) 0 .empty _).acquire
      (i := false) rfl .create rfl
  have hmove : Candidacy.Step (Contest.rivals timing false) s.time
      (.begin (Lease.Instant.after 0 s.time)) (s.seats false)
      (renewing (Contest.rivals timing false) 0 0) := by
    rw [hseats, Function.update_self, htime]
    exact step_renewing (Lease.Instant.after 0 0) hretry hroom
  refine ⟨_, hs.step (.begin hmove (.inl rfl)), htime, hstore, ?_⟩
  show Function.update s.seats _ _ = _
  rw [hseats, Function.update_idem]
  rfl

/-- What the second rival writes over the lease of the first one, once its stored duration has
passed. -/
theorem writes_takeOver (timing : Timing) {later : Nat}
    (hexpired : timing.leaseSeconds.toInt * Lease.Instant.perSecond < Lease.Instant.after 0 later) :
    (Contest.rivals timing true).Writes (Lease.Instant.after 0 later)
      (Contest.heldByFirst timing).lease
      (.replace
        ((Contest.rivals timing true).freshLease (Lease.Instant.after 0 later) 1 (some "1")))
      (.tookOver 1) := by
  have hlt := timing.leaseSeconds.toInt_lt
  have hge := timing.leaseSeconds.le_toInt
  refine .takeOver ?_ (Lease.expired?_of_lt rfl rfl rfl ⟨?_, ?_⟩ ?_) rfl ?_
  · show some "a" ≠ some "b"
    decide
  · show (-8334601228800 * 1000000 : Int) ≤ 0 + timing.leaseSeconds.toInt * 1000000
    omega
  · show 0 + timing.leaseSeconds.toInt * 1000000 ≤ (8210266876799 * 1000000 + 999999 : Int)
    omega
  · show 0 + timing.leaseSeconds.toInt * Lease.Instant.perSecond < Lease.Instant.after 0 later
    rwa [Int.zero_add]
  · show (0 : Int32) ≠ Elector.maxTransitions
    decide

/-- A rival takes the lease over once its stored duration has passed, although its holder is still
the leader. -/
theorem exists_two_leaders {timing : Timing} (hretry : timing.retryInterval = 0) {later : Nat}
    (hexpired : timing.leaseSeconds.toInt * Lease.Instant.perSecond < Lease.Instant.after 0 later)
    (hle : later ≤ timing.renewDeadline) (hroom : 0 < timing.renewDeadline) :
    ∃ s, Reachable (Contest.rivals timing) 0 .empty s ∧
      s.seats false = renewing (Contest.rivals timing false) 0 0 ∧
      s.seats true = .elected (Contest.rivals timing true) ⟨later, later⟩ := by
  obtain ⟨s, hs, htime, hstore, hseats⟩ := exists_renewing hretry hroom
  have hpass : Reachable (Contest.rivals timing) 0 .empty { s with time := later } := by
    refine hs.step (.pass (htime ▸ Nat.zero_le _) ?_)
    rintro (_ | _) r hr
    · rw [hseats, Function.update_self] at hr
      cases hr
      exact Nat.le_trans hle (Nat.le_add_left _ _)
    · rw [hseats, Function.update_of_ne (by decide)] at hr
      cases hr
  have hvacant : s.seats true = .vacant := by
    rw [hseats, Function.update_of_ne (by decide)]
  have hwrites := writes_takeOver timing hexpired
  have haccepted : (Contest.heldByFirst timing).handle
      (.replace
        ((Contest.rivals timing true).freshLease (Lease.Instant.after 0 later) 1 (some "1"))) =
        ((Contest.heldByFirst timing).put _ [], .ok _) := rfl
  rw [← hstore] at hwrites haccepted
  obtain ⟨s', hs', -, hseats', -⟩ := hpass.acquire hvacant hwrites haccepted
  refine ⟨s', hs', ?_, ?_⟩
  · rw [hseats', Function.update_of_ne (by decide)]
    show s.seats false = _
    rw [hseats, Function.update_self]
  · rw [hseats', Function.update_self]

/-- From 2 ^ 31 seconds on, a rival takes the lease over while its holder is the leader. -/
theorem not_exclusive_of_le {seconds : Nat} (hlarge : 2 ^ 31 ≤ seconds) :
    ¬ Exclusive
      ⟨Timing.perSecond * seconds, Timing.perSecond * seconds, 0, Nat.le_refl _⟩ 0 := by
  intro hexclusive
  generalize htiming :
    (⟨Timing.perSecond * seconds, Timing.perSecond * seconds, 0, Nat.le_refl _⟩ : Timing) = timing
    at hexclusive
  have hdeadline : timing.renewDeadline = 1000000000 * seconds := by rw [← htiming]; rfl
  have hretry : timing.retryInterval = 0 := by rw [← htiming]
  -- The wall clock has to show a later microsecond.
  obtain ⟨later, hlater, hle⟩ : ∃ later : Nat,
      timing.leaseSeconds.toInt * Lease.Instant.perSecond < Lease.Instant.after 0 later ∧
        later ≤ 1000000000 * seconds := by
    have hlt := timing.leaseSeconds.toInt_lt
    refine ⟨(1000000000 * timing.leaseSeconds.toInt + 1000).toNat, ?_, by omega⟩
    show timing.leaseSeconds.toInt * 1000000 <
      (0 + ((1000000000 * timing.leaseSeconds.toInt + 1000).toNat / 1000 : Nat) : Int)
    omega
  obtain ⟨s, hs, hfirst, hsecond⟩ := exists_two_leaders hretry hlater (by omega) (by omega)
  have hleader : (s.seats false).isLeader = true := by
    rw [hfirst]
    rfl
  have hleader' : (s.seats true).isLeader = true := by
    rw [hsecond]
    rfl
  refine absurd (hexclusive Bool (Contest.rivals timing) 0 .empty s
    (Contest.rivals_injective timing) (fun _ => rfl) LeaseStore.coherent_empty
    (by simp [LeaseStore.empty]) hs ?_ false true hleader hleader') (by decide)
  rintro (_ | _) span hheld
  · rw [hfirst] at hheld
    cases hheld
    exact Nat.le_refl _
  · rw [hsecond] at hheld
    cases hheld
    exact Nat.le_refl _

/-- **When two electors are never leaders at once.** Let the lease last for some whole seconds, and
let the time that attempts take, the deadline and a rest fit into them. Then no campaign has two
leaders, exactly if the seconds are stored as they were chosen: if there are fewer than 2 ^ 31. -/
theorem exclusive_iff (seconds : Nat) :
    (∀ timing latency, timing.leaseDuration = Timing.perSecond * seconds →
      latency + timing.renewDeadline + timing.retryInterval ≤ timing.leaseDuration →
        Exclusive timing latency) ↔ seconds < 2 ^ 31 := by
  refine ⟨fun h => ?_, fun hlt timing latency hduration => exclusive_of_lt hduration hlt⟩
  by_contra hlarge
  refine not_exclusive_of_le (Nat.le_of_not_lt hlarge) (h _ 0 rfl ?_)
  simp

/-- A duration of 2 ^ 31 seconds, with the standard deadline and rest. -/
def wrapping : Timing :=
  .make (2147483648 * Timing.perSecond) (10 * Timing.perSecond) (2 * Timing.perSecond)

/-- Two rivals with this duration gain the lease at once, one after the other. -/
theorem wrapping_two_leaders :
    0 + wrapping.renewDeadline + wrapping.retryInterval ≤ wrapping.leaseDuration ∧
      ∃ s, Reachable (Contest.rivals wrapping) 0 .empty s ∧
        s.seats false = .elected (Contest.rivals wrapping false) ⟨0, 0⟩ ∧
        s.seats true = .elected (Contest.rivals wrapping true) ⟨0, 0⟩ ∧
        (s.seats false).isLeader = true ∧ (s.seats true).isLeader = true := by
  refine ⟨by decide, ?_⟩
  obtain ⟨s₁, hs₁, htime₁, hseats₁, hstore₁⟩ :=
    (Reachable.start : Reachable (Contest.rivals wrapping) 0 .empty _).acquire
      (i := false) rfl .create rfl
  have htime₁ : s₁.time = 0 := htime₁
  have hstore₁ : s₁.contest.store = Contest.heldByFirst wrapping := hstore₁
  have hvacant : s₁.seats true = .vacant := by
    rw [hseats₁, Function.update_of_ne (by decide)]
    rfl
  have hexpired : wrapping.leaseSeconds.toInt * Lease.Instant.perSecond <
      Lease.Instant.after 0 0 := by
    decide
  have hwrites := writes_takeOver wrapping hexpired
  have haccepted : (Contest.heldByFirst wrapping).handle
      (.replace
        ((Contest.rivals wrapping true).freshLease (Lease.Instant.after 0 0) 1 (some "1"))) =
        ((Contest.heldByFirst wrapping).put _ [], .ok _) := rfl
  rw [← hstore₁, ← htime₁] at hwrites haccepted
  obtain ⟨s₂, hs₂, -, hseats₂, -⟩ := hs₁.acquire hvacant hwrites haccepted
  have hfirst : s₂.seats false = .elected (Contest.rivals wrapping false) ⟨0, 0⟩ := by
    rw [hseats₂, Function.update_of_ne (by decide), hseats₁, Function.update_self]
    rfl
  have hsecond : s₂.seats true = .elected (Contest.rivals wrapping true) ⟨0, 0⟩ := by
    rw [hseats₂, Function.update_self, htime₁]
  exact ⟨s₂, hs₂, hfirst, hsecond, hfirst ▸ rfl, hsecond ▸ rfl⟩

end ControllerManager.Election.Campaign
