import ControllerManager.Proofs.Election.Verdict

/-!
# What a gained lease is worth

An elector that gained the lease goes on as the leader until its deadline, so the lease that it
leaves should keep the others waiting for that long. A lease that was created or taken over does
if the seconds that it stores reach to the deadline: fractions of a second are cut off, and 2 ^ 31
seconds or more do not fit. A lease that was renewed keeps whatever duration it had, if it had one.

## Main definitions

* `Lease.Protects` — everybody but the holder waits for some time.
* `Election.Elector.heldSeconds?` — the duration of the lease that an attempt leaves.

## Main results

* `Lease.protects_iff` — a lease protects its holder as long as it lasts.
* `Election.Elector.success_protects_iff`.
-/

namespace ControllerManager

namespace Lease

/-- From `first` to `last`, everybody but the elector of this name waits. -/
def Protects (l : Lease) (identity : String) (first last : Instant) : Prop :=
  ∀ other ≠ identity, ∀ now, first ≤ now → now ≤ last →
    decision? (some l) other now = some .wait

/-- A held lease that has not expired is live. -/
theorem expired?_eq_false_iff {l : Lease} {now : Instant} :
    l.expired? now = some false ↔
      l.holder?.isSome = true ∧ l.LiveAt now ∧ ¬ l.EndsBeyondCalendar := by
  unfold expired? LiveAt EndsBeyondCalendar
  rcases l.holder? with _ | holder
  · simp
  rcases l.renewTime? with _ | renewed
  · simp
  rcases l.durationSeconds? with _ | duration
  · simp
  by_cases hcalendar : Instant.earliest ≤ renewed + duration.toInt * Instant.perSecond ∧
      renewed + duration.toInt * Instant.perSecond ≤ Instant.latest <;>
    simp [Instant.addSeconds?, hcalendar]

theorem decision?_eq_wait_iff {l : Lease} {identity : String} {now : Instant} :
    decision? (some l) identity now = some .wait ↔
      l.Foreign identity ∧ l.LiveAt now ∧ ¬ l.EndsBeyondCalendar := by
  rw [foreign_iff, and_assoc, ← expired?_eq_false_iff]
  by_cases hown : l.holder? = some identity
  · simp [decision?, hown]
  · rcases hexpired : l.expired? now with _ | _ | _ <;> simp [decision?, hown, hexpired]

/-- A lease that is live at some moment was live before. -/
theorem LiveAt.mono {l : Lease} {first last : Instant} (h : l.LiveAt last) (hle : first ≤ last) :
    l.LiveAt first := by
  obtain ⟨renewed, duration, hrenewed, hduration, hlast⟩ := h
  exact ⟨renewed, duration, hrenewed, hduration, Int.le_trans hle hlast⟩

/-- There is always another name. -/
theorem exists_other (identity : String) : ∃ other, other ≠ identity := by
  refine ⟨identity ++ "+", fun heq => ?_⟩
  simpa using congrArg String.length heq

/-- A lease protects its holder until the last moment at which it is live. -/
theorem protects_iff {l : Lease} {identity : String} {first last : Instant}
    (hholder : l.holder? = some identity) (hle : first ≤ last) :
    l.Protects identity first last ↔ l.LiveAt last ∧ ¬ l.EndsBeyondCalendar := by
  constructor
  · intro h
    obtain ⟨other, hother⟩ := exists_other identity
    exact (decision?_eq_wait_iff.1 (h other hother last hle (Int.le_refl _))).2
  · rintro ⟨hlive, hcalendar⟩ other hother now - hlast
    exact decision?_eq_wait_iff.2
      ⟨⟨identity, hother.symm, hholder⟩, hlive.mono hlast, hcalendar⟩

end Lease

namespace Election.Elector

open Cluster

variable {e : Elector} {now : Lease.Instant} {read : LeaseAnswer} {s s' : LeaseStore} {hold : Hold}

/-- The duration in the lease that an attempt leaves after it has read `seen`: the elector's own, or
what was there before a renewal. -/
def heldSeconds? (e : Elector) (seen : Option Lease) : Hold → Option Int32
  | .renewed => seen.bind Lease.durationSeconds?
  | .created | .tookOver _ => some e.timing.leaseSeconds

/-- The last moment at which a leader goes on that gained the lease by an attempt begun at `now`. -/
def deadline (e : Elector) (now : Lease.Instant) : Lease.Instant :=
  now.after e.timing.renewDeadline

theorem le_deadline (e : Elector) (now : Lease.Instant) : now ≤ e.deadline now :=
  now.le_after e.timing.renewDeadline

/-- An accepted write leaves a lease of the duration that goes with it. -/
theorem Writes.durationSeconds?_eq {seen : Option Lease} {call : LeaseCall}
    (h : e.Writes now seen call hold) {l : Lease} (haccepted : s.Accepts call l) :
    l.durationSeconds? = e.heldSeconds? seen hold := by
  cases h with
  | create =>
    cases haccepted
    rfl
  | renew hown hversion =>
    cases haccepted
    exact durationSeconds?_renewedLease now _
  | takeOver hforeign hexpired hversion hroom =>
    cases haccepted
    rfl

/-- An attempt that gains the lease leaves it under the elector's name, renewed when the attempt
began. -/
theorem Succeeds.fields (h : e.Succeeds now read s hold s') :
    ∃ seen l, leaseOf read = .ok seen ∧ s'.lease = some l ∧ l.holder? = some e.identity ∧
      l.renewTime? = some now ∧ l.durationSeconds? = e.heldSeconds? seen hold := by
  obtain ⟨seen, call, l, hseen, hwrites, haccepted, hlease⟩ := h.stored
  obtain ⟨hholder, hrenewed⟩ := hwrites.holder_renewTime haccepted
  have hduration := hwrites.durationSeconds?_eq haccepted
  exact ⟨seen, _, hseen, hlease, hholder, hrenewed, hduration⟩

/-- **When success protects.** An attempt that gains the lease leaves it under the elector's name,
renewed when the attempt began. This lease makes everybody else wait until the deadline exactly if
it has a duration that reaches to the deadline, and its expiry lies within the calendar. The
duration is the elector's own, in whole seconds, if the lease was created or taken over; if it was
renewed, it is the one that the lease had before. -/
theorem success_protects_iff (h : e.Succeeds now read s hold s') :
    ∃ seen l, leaseOf read = .ok seen ∧ s'.lease = some l ∧ l.holder? = some e.identity ∧
      l.renewTime? = some now ∧
      (l.Protects e.identity now (e.deadline now) ↔
        ∃ seconds, e.heldSeconds? seen hold = some seconds ∧
          e.deadline now ≤ now + seconds.toInt * Lease.Instant.perSecond ∧
          Lease.Instant.earliest ≤ now + seconds.toInt * Lease.Instant.perSecond ∧
          now + seconds.toInt * Lease.Instant.perSecond ≤ Lease.Instant.latest) := by
  obtain ⟨seen, l, hseen, hlease, hholder, hrenewed, hduration⟩ := h.fields
  refine ⟨seen, l, hseen, hlease, hholder, hrenewed, ?_⟩
  rw [Lease.protects_iff hholder (e.le_deadline now)]
  unfold Lease.LiveAt Lease.EndsBeyondCalendar
  rw [hrenewed, hduration]
  rcases e.heldSeconds? seen hold with _ | seconds
  · simp
  · simp

/-- The lease that an elector creates with the standard timing protects it. -/
theorem created_lease_protects :
    ∃ l, (Contest.heldByFirst .standard).lease = some l ∧
      l.Protects "a" 0 ((Contest.rivals .standard false).deadline 0) := by
  have hsucceeds : (Contest.rivals .standard false).Succeeds 0 LeaseStore.empty.stored .empty
      .created (Contest.heldByFirst .standard) := .intro rfl rfl rfl
  obtain ⟨seen, l, -, hlease, -, -, hprotects⟩ := success_protects_iff hsucceeds
  exact ⟨l, hlease, hprotects.2 ⟨15, rfl, by decide⟩⟩

/-- A store in which the first of two rivals holds a lease without a duration. -/
def unlimited : LeaseStore where
  lease := some
    { name := some standardLease
      namespaceName := some "default"
      resourceVersion := some "1"
      labels := none
      spec := some { Lease.Spec.blank with holder := some "a", renewTime := some (-5000000) } }
  extra := []
  version := 1
  versioned := true

/-- A lease of a second and a half, with a deadline just before its end. -/
def fractional : Timing := .make 1500000000 1400000000 100000000

/-- Success without protection. Who renews a lease that has no duration loses it at once to whoever
else reads it. Who creates a lease of a second and a half stores one second, and others take the
lease over before the deadline. -/
theorem success_without_protection :
    (∃ s' l, (Contest.rivals .standard false).Succeeds 0 unlimited.stored unlimited .renewed s' ∧
      s'.lease = some l ∧ Lease.decision? (some l) "b" 0 = some (.takeOver 0)) ∧
    ∃ s' l, (Contest.rivals fractional false).Succeeds 0 LeaseStore.empty.stored .empty
        .created s' ∧ s'.lease = some l ∧
      1200000 ≤ (Contest.rivals fractional false).deadline 0 ∧
      Lease.decision? (some l) "b" 1200000 = some (.takeOver 0) :=
  ⟨⟨_, _, .intro rfl rfl rfl, rfl, by decide⟩, _, _, .intro rfl rfl rfl, rfl, by decide, by decide⟩

end Election.Elector

end ControllerManager
