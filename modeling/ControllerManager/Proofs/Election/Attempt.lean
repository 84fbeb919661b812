import ControllerManager.Election.Attempt
import ControllerManager.Proofs.Cluster.LeaseStore

/-!
# What an attempt writes

An attempt writes at most once, and what it writes follows from the lease that it has read: a new
lease where there was none, the same lease with another time of renewal where it is the elector's
own, and the elector's own lease in place of a foreign one that has expired.

## Main definitions

* `Lease.Foreign`, `Lease.LiveAt` — a lease of somebody else, and a lease that has not expired.
* `Election.Elector.Writes` — what an elector writes after it has read the lease.

## Main results

* `Election.Elector.act_eq_write_iff` — the three ways to write.
* `Election.Attempt.receive_cases` — how an attempt goes on after an answer.
-/

namespace ControllerManager

namespace Lease

/-- The lease has a holder with another name. -/
def Foreign (l : Lease) (identity : String) : Prop := ∃ other ≠ identity, l.holder? = some other

/-- The lease has not expired at `now`: its last renewal still lasts. -/
def LiveAt (l : Lease) (now : Instant) : Prop :=
  ∃ renewed duration, l.renewTime? = some renewed ∧ l.durationSeconds? = some duration ∧
    now ≤ renewed + duration.toInt * Instant.perSecond

/-- A held lease that counts as expired ended before. -/
theorem lt_of_expired? {l : Lease} {now renewed : Instant} {holder : String} {duration : Int32}
    (hholder : l.holder? = some holder) (hrenewed : l.renewTime? = some renewed)
    (hduration : l.durationSeconds? = some duration) (hexpired : l.expired? now = some true) :
    renewed + duration.toInt * Instant.perSecond < now := by
  simp only [expired?, hholder, hrenewed, hduration, Option.map_eq_some_iff,
    Instant.addSeconds?] at hexpired
  obtain ⟨expiry, hsum, hlt⟩ := hexpired
  split_ifs at hsum
  cases hsum
  exact of_decide_eq_true hlt

/-- A held lease that ended before counts as expired, unless its end lies beyond the calendar. -/
theorem expired?_of_lt {l : Lease} {now renewed : Instant} {holder : String} {duration : Int32}
    (hholder : l.holder? = some holder) (hrenewed : l.renewTime? = some renewed)
    (hduration : l.durationSeconds? = some duration)
    (hcalendar : Instant.earliest ≤ renewed + duration.toInt * Instant.perSecond ∧
      renewed + duration.toInt * Instant.perSecond ≤ Instant.latest)
    (hlt : renewed + duration.toInt * Instant.perSecond < now) : l.expired? now = some true := by
  simp only [expired?, hholder, hrenewed, hduration, Instant.addSeconds?, if_pos hcalendar,
    Option.map_some, decide_eq_true hlt]

/-- A lease that counts as expired is not both foreign and live. -/
theorem not_foreign_and_liveAt {l : Lease} {identity : String} {now : Instant}
    (hexpired : l.expired? now = some true) : ¬ (l.Foreign identity ∧ l.LiveAt now) := by
  rintro ⟨⟨other, -, hholder⟩, renewed, duration, hrenewed, hduration, hle⟩
  exact absurd hle (Int.not_le.2 (lt_of_expired? hholder hrenewed hduration hexpired))

end Lease

namespace Election

open Cluster

/-! ### The leases that electors write -/

namespace Elector

variable (now : Lease.Instant)

@[simp]
theorem holder?_renewedLease (l : Lease) : (renewedLease l now).holder? = l.holder? := by
  cases h : l.spec <;> simp [renewedLease, Lease.holder?, h]

@[simp]
theorem durationSeconds?_renewedLease (l : Lease) :
    (renewedLease l now).durationSeconds? = l.durationSeconds? := by
  cases h : l.spec <;> simp [renewedLease, Lease.durationSeconds?, h]

/-- A lease that has a holder has contents, so that its renewal is recorded. -/
theorem renewTime?_renewedLease {l : Lease} {holder : String} (h : l.holder? = some holder) :
    (renewedLease l now).renewTime? = some now := by
  cases hs : l.spec with
  | none => simp [Lease.holder?, hs] at h
  | some spec => simp [renewedLease, Lease.renewTime?, hs]

/-! ### What follows the reading -/

/-- What an elector writes after it has read the lease, in an attempt that began at `now`. -/
inductive Writes (e : Elector) (now : Lease.Instant) : Option Lease → LeaseCall → Hold → Prop
  | create : Writes e now none (.create (e.freshLease now 0 none)) .created
  | renew {l : Lease} {version : String} (hown : l.holder? = some e.identity)
      (hversion : l.resourceVersion = some version) :
      Writes e now (some l) (.replace (renewedLease l now)) .renewed
  | takeOver {l : Lease} {version : String} (hforeign : l.holder? ≠ some e.identity)
      (hexpired : l.expired? now = some true) (hversion : l.resourceVersion = some version)
      (hroom : l.transitions ≠ maxTransitions) :
      Writes e now (some l) (.replace (e.freshLease now (l.transitions + 1) (some version)))
        (.tookOver (l.transitions + 1))

theorem Writes.call_ne_read {e : Elector} {now : Lease.Instant} {seen : Option Lease}
    {call : LeaseCall} {hold : Hold} (h : e.Writes now seen call hold) : call ≠ .read := by
  cases h <;> simp

/-- An accepted write leaves a lease of the elector, renewed when the attempt began. -/
theorem Writes.holder_renewTime {e : Elector} {now : Lease.Instant} {seen : Option Lease}
    {call : LeaseCall} {hold : Hold} (h : e.Writes now seen call hold) {s : LeaseStore} {l : Lease}
    (haccepted : s.Accepts call l) :
    l.holder? = some e.identity ∧ l.renewTime? = some now := by
  cases h with
  | create =>
    cases haccepted
    exact ⟨rfl, rfl⟩
  | renew hown hversion =>
    cases haccepted
    exact ⟨(holder?_renewedLease now _).trans hown, renewTime?_renewedLease now hown⟩
  | takeOver hforeign hexpired hversion hroom =>
    cases haccepted
    exact ⟨rfl, rfl⟩

/-- What an elector does after it has read the lease: it writes, it is refused the lease, it fails,
or it crashes over the lease of somebody else. -/
theorem act_cases (e : Elector) (now : Lease.Instant) (seen : Option Lease) :
    (∃ call hold, e.act now seen = .write call hold ∧ e.Writes now seen call hold) ∨
      (∃ refusal, e.act now seen = .done (.refused refusal)) ∨
      (∃ error, e.act now seen = .done (.failed error)) ∨
      ∃ crash l, e.act now seen = .done (.crashed crash) ∧ seen = some l ∧
        l.holder? ≠ some e.identity := by
  cases seen with
  | none => exact .inl ⟨_, _, rfl, .create⟩
  | some l =>
    by_cases hown : l.holder? = some e.identity
    · rcases hversion : l.resourceVersion with _ | version
      · refine .inr (.inr (.inl ⟨.runtime "lease missing resourceVersion", ?_⟩))
        simp [act, Lease.decision?, hown, hversion, missingVersion]
      · refine .inl ⟨_, _, ?_, .renew hown hversion⟩
        simp [act, Lease.decision?, hown, hversion]
    · rcases hexpired : l.expired? now with _ | _ | _
      · refine .inr (.inr (.inr ⟨.expiryBeyondCalendar, l, ?_, rfl, hown⟩))
        simp [act, Lease.decision?, hown, hexpired]
      · refine .inr (.inl ⟨.heldByOther, ?_⟩)
        simp [act, Lease.decision?, hown, hexpired]
      · rcases hversion : l.resourceVersion with _ | version
        · refine .inr (.inr (.inl ⟨.runtime "lease missing resourceVersion", ?_⟩))
          simp [act, Lease.decision?, hown, hexpired, hversion, missingVersion]
        · by_cases hroom : l.transitions = maxTransitions
          · refine .inr (.inr (.inr ⟨.transitionsOverflow, l, ?_, rfl, hown⟩))
            simp [act, Lease.decision?, hown, hexpired, hversion, hroom]
          · refine .inl ⟨_, _, ?_, .takeOver hown hexpired hversion hroom⟩
            simp [act, Lease.decision?, hown, hexpired, hversion, hroom]

/-- An elector writes in three ways: it creates the lease, renews it, or takes it over. -/
theorem act_eq_write_iff {e : Elector} {now : Lease.Instant} {seen : Option Lease}
    {call : LeaseCall} {hold : Hold} :
    e.act now seen = .write call hold ↔ e.Writes now seen call hold := by
  constructor
  · intro h
    rcases e.act_cases now seen with ⟨call', hold', hact, hwrites⟩ | ⟨refusal, hact⟩ |
      ⟨error, hact⟩ | ⟨crash, l, hact, -⟩
    · obtain ⟨rfl, rfl⟩ := AfterRead.write.inj (hact.symm.trans h)
      exact hwrites
    all_goals exact nomatch hact.symm.trans h
  · intro h
    cases h with
    | create => rfl
    | renew hown hv => simp [act, Lease.decision?, hown, hv]
    | takeOver hforeign hexpired hv hroom =>
      simp [act, Lease.decision?, hforeign, hexpired, hv, hroom]

/-- An attempt that reads the stored lease goes on with what follows from it. -/
theorem Writes.receive_stored {e : Elector} {now : Lease.Instant} {s : LeaseStore}
    {call : LeaseCall} {hold : Hold} (h : e.Writes now s.lease call hold) :
    (Attempt.reading now).receive e s.stored = .inl (.writing call hold) := by
  have hlease : leaseOf s.stored = .ok s.lease := by
    cases hl : s.lease with
    | none =>
      simp only [LeaseStore.stored, hl]
      rfl
    | some l => simp [LeaseStore.stored, hl, leaseOf]
  simp only [Attempt.receive, afterRead, hlease, act_eq_write_iff.2 h]

/-- What follows the reading. -/
theorem afterRead_cases (e : Elector) (now : Lease.Instant) (answer : LeaseAnswer) :
    (∃ error, e.afterRead now answer = .done (.failed error)) ∨
      ∃ seen, leaseOf answer = .ok seen ∧ e.afterRead now answer = e.act now seen := by
  rcases hread : leaseOf answer with error | seen
  · exact .inl ⟨error, by simp [afterRead, hread]⟩
  · exact .inr ⟨seen, rfl, by simp [afterRead, hread]⟩

/-- What the answer to the writing means. -/
theorem afterWrite_cases (hold : Hold) (answer : LeaseAnswer) :
    (∃ l, answer = .ok l ∧ afterWrite hold answer = .held hold) ∨
      (∃ refusal, afterWrite hold answer = .refused refusal) ∨
      ∃ error, afterWrite hold answer = .failed error := by
  cases answer with
  | ok l => exact .inl ⟨l, rfl, rfl⟩
  | error fault =>
    cases fault with
    | refused r =>
      by_cases hconflict : r.code = 409
      · exact .inr (.inl ⟨.conflict, if_pos hconflict⟩)
      · exact .inr (.inr ⟨_, if_neg hconflict⟩)
    | _ => exact .inr (.inr ⟨_, rfl⟩)

/-- Only an answer that holds a lease is read as one. -/
theorem eq_ok_of_leaseOf {answer : LeaseAnswer} {l : Lease} (h : leaseOf answer = .ok (some l)) :
    answer = .ok l := by
  cases answer with
  | ok l' =>
    obtain rfl : l' = l := by simpa [leaseOf] using h
    rfl
  | error fault =>
    simp only [leaseOf] at h
    split_ifs at h
    cases h

end Elector

/-! ### Attempts -/

namespace Attempt

variable {e : Elector} {a a' : Attempt} {answer : LeaseAnswer}

/-- What an answer to the reading or the writing of an attempt means: the attempt goes on to write,
it holds the lease, it is over without the lease, or it crashes over the lease of somebody else. -/
theorem receive_cases (e : Elector) (a : Attempt) (answer : LeaseAnswer) :
    (∃ now seen call hold, a = .reading now ∧ Elector.leaseOf answer = .ok seen ∧
        e.Writes now seen call hold ∧ a.receive e answer = .inl (.writing call hold)) ∨
      (∃ call hold l, a = .writing call hold ∧ answer = .ok l ∧
        a.receive e answer = .inr (.held hold)) ∨
      (∃ refusal, a.receive e answer = .inr (.refused refusal)) ∨
      (∃ error, a.receive e answer = .inr (.failed error)) ∨
      ∃ now l crash, a = .reading now ∧ answer = .ok l ∧ l.holder? ≠ some e.identity ∧
        a.receive e answer = .inr (.crashed crash) := by
  cases a with
  | reading now =>
    simp only [receive]
    rcases e.afterRead_cases now answer with ⟨error, hread⟩ | ⟨seen, hseen, hread⟩
    · exact .inr (.inr (.inr (.inl ⟨error, by rw [hread]⟩)))
    · rw [hread]
      rcases e.act_cases now seen with ⟨call, hold, hact, hwrites⟩ | ⟨refusal, hact⟩ |
        ⟨error, hact⟩ | ⟨crash, l, hact, rfl, hforeign⟩
      · exact .inl ⟨now, seen, call, hold, rfl, hseen, hwrites, by rw [hact]⟩
      · exact .inr (.inr (.inl ⟨refusal, by rw [hact]⟩))
      · exact .inr (.inr (.inr (.inl ⟨error, by rw [hact]⟩)))
      · exact .inr (.inr (.inr (.inr
          ⟨now, l, crash, rfl, Elector.eq_ok_of_leaseOf hseen, hforeign, by rw [hact]⟩)))
  | writing call hold =>
    rcases Elector.afterWrite_cases hold answer with ⟨l, rfl, hwritten⟩ | ⟨refusal, hwritten⟩ |
      ⟨error, hwritten⟩
    · exact .inr (.inl ⟨call, hold, l, rfl, rfl, congrArg _ hwritten⟩)
    · exact .inr (.inr (.inl ⟨refusal, congrArg _ hwritten⟩))
    · exact .inr (.inr (.inr (.inl ⟨error, congrArg _ hwritten⟩)))

/-- An attempt that goes on has read the lease and writes it. -/
theorem eq_writing_of_receive (h : a.receive e answer = .inl a') :
    ∃ now seen call hold, a = .reading now ∧ Elector.leaseOf answer = .ok seen ∧
      e.Writes now seen call hold ∧ a' = .writing call hold := by
  rcases a.receive_cases e answer with ⟨now, seen, call, hold, ha, hseen, hwrites, heq⟩ |
    ⟨_, _, _, -, -, heq⟩ | ⟨_, heq⟩ | ⟨_, heq⟩ | ⟨_, _, _, -, -, -, heq⟩
  · exact ⟨now, seen, call, hold, ha, hseen, hwrites, Sum.inl.inj (h.symm.trans heq)⟩
  all_goals exact nomatch h.symm.trans heq

/-- An attempt holds the lease only after its write was answered with the lease. -/
theorem eq_writing_of_held {hold : Hold} (h : a.receive e answer = .inr (.held hold)) :
    ∃ call l, a = .writing call hold ∧ answer = .ok l := by
  rcases a.receive_cases e answer with ⟨_, _, _, _, -, -, -, heq⟩ |
    ⟨call, hold', l, ha, hanswer, heq⟩ | ⟨_, heq⟩ | ⟨_, heq⟩ | ⟨_, _, _, -, -, -, heq⟩
  case inr.inl =>
    obtain rfl : hold = hold' := Verdict.held.inj (Sum.inr.inj (h.symm.trans heq))
    exact ⟨call, l, ha, hanswer⟩
  all_goals exact nomatch h.symm.trans heq

/-- An attempt crashes only over a lease of somebody else. -/
theorem foreign_of_crashed {crash : Crash} (h : a.receive e answer = .inr (.crashed crash)) :
    ∃ now l, a = .reading now ∧ answer = .ok l ∧ l.holder? ≠ some e.identity := by
  rcases a.receive_cases e answer with ⟨_, _, _, _, -, -, -, heq⟩ | ⟨_, _, _, -, -, heq⟩ |
    ⟨_, heq⟩ | ⟨_, heq⟩ | ⟨now, l, crash', ha, hanswer, hforeign, -⟩
  case inr.inr.inr.inr => exact ⟨now, l, ha, hanswer, hforeign⟩
  all_goals exact nomatch h.symm.trans heq

end Attempt

/-! ### Crashes -/

/-- A lease over which an elector crashes: it belongs to somebody else, and the moment of its expiry
lies beyond the calendar, or it has expired and the count of transitions is full. -/
def Elector.CrashesOver (e : Elector) (now : Lease.Instant) (l : Lease) : Prop :=
  l.holder? ≠ some e.identity ∧
    (l.expired? now = none ∨
      l.expired? now = some true ∧ l.resourceVersion.isSome = true ∧
        l.transitions = Elector.maxTransitions)

theorem Elector.act_eq_crashed_iff {e : Elector} {now : Lease.Instant} {l : Lease} :
    (∃ crash, e.act now (some l) = .done (.crashed crash)) ↔ e.CrashesOver now l := by
  unfold CrashesOver
  by_cases hown : l.holder? = some e.identity
  · rcases hversion : l.resourceVersion with _ | version <;>
      simp [act, Lease.decision?, hown, hversion, missingVersion]
  · rcases hexpired : l.expired? now with _ | _ | _
    · simp [act, Lease.decision?, hown, hexpired]
    · simp [act, Lease.decision?, hown, hexpired]
    · rcases hversion : l.resourceVersion with _ | version
      · simp [act, Lease.decision?, hown, hexpired, hversion, missingVersion]
      · by_cases hfull : l.transitions = maxTransitions <;>
          simp [act, Lease.decision?, hown, hexpired, hversion, hfull]

/-- An attempt crashes over the lease that it has read, and over nothing else. -/
theorem Attempt.receive_eq_crashed_iff {e : Elector} {a : Attempt} {answer : LeaseAnswer} :
    (∃ crash, a.receive e answer = .inr (.crashed crash)) ↔
      ∃ now l, a = .reading now ∧ answer = .ok l ∧ e.CrashesOver now l := by
  constructor
  · rintro ⟨crash, h⟩
    obtain ⟨now, l, rfl, rfl, -⟩ := Attempt.foreign_of_crashed h
    refine ⟨now, l, rfl, rfl, Elector.act_eq_crashed_iff.1 ⟨crash, ?_⟩⟩
    simp only [Attempt.receive, Elector.afterRead, Elector.leaseOf] at h
    split at h
    · rename_i verdict hact
      cases h
      exact hact
    · cases h
  · rintro ⟨now, l, rfl, rfl, hcrashes⟩
    obtain ⟨crash, hact⟩ := Elector.act_eq_crashed_iff.2 hcrashes
    exact ⟨crash, by simp only [Attempt.receive, Elector.afterRead, Elector.leaseOf, hact]⟩

end Election

end ControllerManager
