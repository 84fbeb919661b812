import ControllerManager.Proofs.Election.CompareAndSwap

/-!
# How attempts end

An attempt reads the lease and writes it at most once, so that two answers decide how it ends. It
crashes over two kinds of leases: one of somebody else whose expiry lies beyond the calendar, and
one that it could take over but whose count of transitions is full. Any other lease it survives.

## Main definitions

* `Lease.EndsBeyondCalendar` — the last renewal and the duration have no sum.
* `Election.Elector.verdict` — how an attempt ends.
* `Election.Elector.Succeeds` — an attempt that gains the lease, with the store that it leaves.

## Main results

* `Lease.decision?_eq_none_iff` — when there is no decision.
* `Election.Elector.crashes_iff` — which leases crash an elector.
-/

namespace ControllerManager

namespace Lease

/-- The moment of expiry, which the last renewal and the duration make, lies beyond the calendar. -/
def EndsBeyondCalendar (l : Lease) : Prop :=
  ∃ renewed duration, l.renewTime? = some renewed ∧ l.durationSeconds? = some duration ∧
    ¬ (Instant.earliest ≤ renewed + duration.toInt * Instant.perSecond ∧
      renewed + duration.toInt * Instant.perSecond ≤ Instant.latest)

theorem Instant.addSeconds?_eq_none_iff {t : Instant} {seconds : Int} :
    t.addSeconds? seconds = none ↔
      ¬ (earliest ≤ t + seconds * perSecond ∧ t + seconds * perSecond ≤ latest) := by
  simp only [addSeconds?]
  split_ifs with hcalendar <;> simp [hcalendar]

/-- Whether a held lease has expired is open only where its expiry lies beyond the calendar. -/
theorem expired?_eq_none_iff {l : Lease} {now : Instant} :
    l.expired? now = none ↔ l.holder?.isSome = true ∧ l.EndsBeyondCalendar := by
  unfold expired? EndsBeyondCalendar
  rcases l.holder? with _ | holder
  · simp
  rcases l.renewTime? with _ | renewed
  · simp
  rcases l.durationSeconds? with _ | duration
  · simp
  simp [Instant.addSeconds?_eq_none_iff]

theorem foreign_iff {l : Lease} {identity : String} :
    l.Foreign identity ↔ l.holder? ≠ some identity ∧ l.holder?.isSome = true := by
  unfold Foreign
  cases l.holder? <;> simp

/-- There is no decision on a lease of somebody else whose expiry lies beyond the calendar. On any
other lease, and without one, there is. -/
theorem decision?_eq_none_iff {lease : Option Lease} {identity : String} {now : Instant} :
    decision? lease identity now = none ↔
      ∃ l, lease = some l ∧ l.Foreign identity ∧ l.EndsBeyondCalendar := by
  cases lease with
  | none => simp [decision?]
  | some l =>
    by_cases hown : l.holder? = some identity
    · simp [decision?, foreign_iff, hown]
    · simp [decision?, foreign_iff, hown, expired?_eq_none_iff]

end Lease

namespace Election

open Cluster

/-! ### Two answers -/

/-- How an attempt that begins at `now` ends, from the answer to its reading and the answers to the
writes that it could make. -/
def Elector.verdict (e : Elector) (now : Lease.Instant) (read : LeaseAnswer)
    (written : LeaseCall → LeaseAnswer) : Verdict :=
  match e.afterRead now read with
  | .done verdict => verdict
  | .write call hold => afterWrite hold (written call)

namespace Elector

variable {e : Elector} {now : Lease.Instant} {read : LeaseAnswer}
  {written : LeaseCall → LeaseAnswer}

/-- No write crashes an elector. -/
theorem afterWrite_ne_crashed (hold : Hold) (answer : LeaseAnswer) (crash : Crash) :
    afterWrite hold answer ≠ .crashed crash := by
  rcases afterWrite_cases hold answer with ⟨l, -, heq⟩ | ⟨refusal, heq⟩ | ⟨error, heq⟩ <;>
    simp [heq]

/-- An attempt crashes when what it does about the lease that it has read is to crash. -/
theorem verdict_eq_crashed_iff {crash : Crash} :
    e.verdict now read written = .crashed crash ↔
      ∃ l, read = .ok l ∧ e.act now (some l) = .done (.crashed crash) := by
  constructor
  · intro h
    unfold verdict at h
    split at h
    · rename_i verdict hread
      obtain rfl := h
      have hreceive : (Attempt.reading now).receive e read = .inr (.crashed crash) := by
        simp only [Attempt.receive, hread]
      obtain ⟨_, l, -, rfl, -⟩ := Attempt.foreign_of_crashed hreceive
      exact ⟨l, rfl, hread⟩
    · exact absurd h (afterWrite_ne_crashed _ _ _)
  · rintro ⟨l, rfl, hact⟩
    simp only [verdict, afterRead, leaseOf, hact]

/-! ### What crashes an elector -/

/-- An elector crashes where there is no decision, and where it decides to take the lease over but
the count of transitions is full. -/
theorem act_eq_crashed_cases {l : Lease} {crash : Crash} :
    e.act now (some l) = .done (.crashed crash) ↔
      Lease.decision? (some l) e.identity now = none ∧ crash = .expiryBeyondCalendar ∨
        (Lease.decision? (some l) e.identity now = some (.takeOver maxTransitions) ∧
          l.resourceVersion.isSome = true) ∧ crash = .transitionsOverflow := by
  unfold act
  rcases Lease.decision? (some l) e.identity now with _ | (_ | _ | n | _)
  · cases crash <;> simp
  · simp
  · cases hversion : l.resourceVersion <;> simp [hversion, missingVersion]
  · cases hversion : l.resourceVersion with
    | none => simp [hversion, missingVersion]
    | some version =>
      by_cases hfull : n = maxTransitions <;> cases crash <;> simp [hversion, hfull]
  · simp

/-! ### Attempts that gain the lease -/

/-- An attempt that begins at `now` and gains the lease: its reading is answered by `read`, and its
write by the store `s`, which then is `s'`. -/
inductive Succeeds (e : Elector) (now : Lease.Instant) (read : LeaseAnswer) (s : LeaseStore)
    (hold : Hold) (s' : LeaseStore) : Prop
  | intro {call : LeaseCall} {answer : LeaseAnswer}
      (hread : (Attempt.reading now).receive e read = .inl (.writing call hold))
      (hserved : s.handle call = (s', answer))
      (hwritten : (Attempt.writing call hold).receive e answer = .inr (.held hold))

/-- The store keeps what the elector has written after the reading. -/
theorem Succeeds.stored {s s' : LeaseStore} {hold : Hold} (h : e.Succeeds now read s hold s') :
    ∃ seen call l, leaseOf read = .ok seen ∧ e.Writes now seen call hold ∧ s.Accepts call l ∧
      s'.lease = some { l with resourceVersion := s.nextVersion } := by
  obtain @⟨call, answer, hread, hserved, hwritten⟩ := h
  obtain ⟨_, seen, _, _, ha, hseen, hwrites, heq⟩ := Attempt.eq_writing_of_receive hread
  cases ha
  cases heq
  obtain ⟨_, written, -, rfl⟩ := Attempt.eq_writing_of_held hwritten
  obtain ⟨l, extra, haccepted, hhandle⟩ :=
    LeaseStore.accepts_of_handle_ok hwrites.call_ne_read (congrArg Prod.snd hserved)
  obtain rfl : s.put l extra = s' := congrArg Prod.fst (hhandle.symm.trans hserved)
  exact ⟨seen, call, l, hseen, hwrites, haccepted, rfl⟩

/-- A takeover stores the next count of transitions. -/
theorem Succeeds.transitions {s s' : LeaseStore} {n : Int32}
    (h : e.Succeeds now read s (.tookOver n) s') :
    ∃ l l', read = .ok l ∧ s'.lease = some l' ∧
      l'.spec.bind Lease.Spec.transitions = some n ∧ n.toInt = l.transitions.toInt + 1 := by
  obtain ⟨seen, call, l', hseen, hwrites, haccepted, hlease⟩ := h.stored
  cases hwrites with
  | @takeOver l version hforeign hexpired hversion hroom =>
    cases haccepted
    exact ⟨l, _, eq_ok_of_leaseOf hseen, hlease, rfl, toInt_add_one hroom⟩

/-- **Which leases crash an elector.** There is no decision exactly on leases of somebody else whose
expiry lies beyond the calendar. An attempt, whatever its answers are, crashes over these leases,
and over those that it could take over if their count of transitions were not full; it crashes over
nothing else. A takeover stores the count of transitions that it has read, and one more. -/
theorem crashes_iff (e : Elector) (now : Lease.Instant) (read : LeaseAnswer)
    (written : LeaseCall → LeaseAnswer) :
    (∀ lease identity, Lease.decision? lease identity now = none ↔
      ∃ l, lease = some l ∧ l.Foreign identity ∧ l.EndsBeyondCalendar) ∧
    (e.verdict now read written = .crashed .expiryBeyondCalendar ↔
      ∃ l, read = .ok l ∧ l.Foreign e.identity ∧ l.EndsBeyondCalendar) ∧
    (e.verdict now read written = .crashed .transitionsOverflow ↔
      ∃ l, read = .ok l ∧ l.resourceVersion.isSome = true ∧
        Lease.decision? (some l) e.identity now = some (.takeOver maxTransitions)) ∧
    ∀ s s' n, e.Succeeds now read s (.tookOver n) s' →
      ∃ l l', read = .ok l ∧ s'.lease = some l' ∧
        l'.spec.bind Lease.Spec.transitions = some n ∧ n.toInt = l.transitions.toInt + 1 := by
  refine ⟨fun lease identity => Lease.decision?_eq_none_iff, ?_, ?_, fun s s' n h => h.transitions⟩
  · rw [verdict_eq_crashed_iff]
    simp [act_eq_crashed_cases, Lease.decision?_eq_none_iff]
  · rw [verdict_eq_crashed_iff]
    simp [act_eq_crashed_cases, and_comm]

/-- A lease of somebody else that was renewed at the end of the calendar. -/
def renewedLast : Lease where
  name := some standardLease
  namespaceName := none
  resourceVersion := some "1"
  labels := none
  spec := some ⟨some "other", some Int32.maxValue, none, some (8210266876799 * 1000000), some 0,
    none, none⟩

/-- There is no decision on this lease, and whoever else reads it crashes. -/
theorem renewedLast_crashes :
    Lease.decision? (some renewedLast) "a" 0 = none ∧
      ∀ written, (Contest.rivals .standard false).verdict 0 (.ok renewedLast) written =
        .crashed .expiryBeyondCalendar :=
  ⟨by decide, fun _ => rfl⟩

end Elector

end Election

end ControllerManager
