import ControllerManager.Proofs.Election.Attempt
import Mathlib.Logic.Function.Basic

/-!
# Contests for a lease

Any number of electors that make attempts and give the lease back over one store, request by
request. Between two requests of one elector any requests of others can be served. A request can
be served long after its elector stopped waiting for the answer, an answer can be lost, and
instead of it the elector can learn of any fault. Nobody deletes the lease.

Every attempt and every release is an errand under a name of its own. Beside what the electors
know, a contest keeps what the statements are about: what the clock showed when an errand began,
the lease that it has read, and how many takeovers were accepted.

## Main definitions

* `Election.Errand`, `Election.Trip` — an attempt or a release, and its request under way.
* `Election.Contest` — the store and all errands.
* `Election.Contest.Step`, `Election.Contest.Run` — one event, and any sequence of events.
* `Election.Contest.Sound` — what every errand has read was stored, and what it writes follows
  from it.

## Main results

* `Election.Contest.Run.sound` — every contest is sound.
* `Election.Contest.Sound.lease_eq_seen` — an accepted write of an attempt replaces the lease that
  the attempt has read.
-/

namespace ControllerManager.Election

open Cluster

/-- What an elector is about: to gain or keep the lease, or to give it back. -/
inductive Errand where
  | attempt (attempt : Attempt)
  | release (release : Release)
  deriving Repr, DecidableEq

namespace Errand

/-- The request whose answer the errand waits for. -/
def call : Errand → LeaseCall
  | .attempt a => a.call
  | .release r => r.call

/-- The errand after an answer that came at `now`, unless it is over. -/
def receive (e : Elector) (now : Lease.Instant) (answer : LeaseAnswer) : Errand → Option Errand
  | .attempt a => (a.receive e answer).getLeft?.map .attempt
  | .release r => (r.receive e now answer).getLeft?.map .release

/-- Whether the errand writes the lease in place of one that it has found expired. -/
def isTakeover : Errand → Bool
  | .attempt (.writing _ (.tookOver _)) => true
  | _ => false

end Errand

/-- Where the request of an errand is. -/
inductive Mail where
  /-- It has not reached the server. -/
  | outgoing
  /-- The server has answered it. -/
  | answered (answer : LeaseAnswer)
  deriving Repr

/-- An errand with its request under way. -/
structure Trip where
  errand : Errand
  mail : Mail
  /-- Whether the elector waits for the answer. -/
  attended : Bool
  /-- What the clock of the elector showed when the errand began. -/
  began : Lease.Instant
  /-- The lease that the errand has read. -/
  seen : Option Lease
  deriving Repr

namespace Trip

/-- A write of an attempt that the server has answered with the lease. -/
def Confirmed (t : Trip) : Prop :=
  ∃ call hold l, t.errand = .attempt (.writing call hold) ∧ t.mail = .answered (.ok l)

/-- A write of an attempt that has not reached the server. -/
def Pending (t : Trip) : Prop :=
  ∃ call hold, t.errand = .attempt (.writing call hold) ∧ t.mail = .outgoing

/-- An attempt that begins at `now`. -/
def attempt (now : Lease.Instant) : Trip := ⟨.attempt (.reading now), .outgoing, true, now, none⟩

/-- A release that begins at `now`. -/
def release (now : Lease.Instant) : Trip := ⟨.release .reading, .outgoing, true, now, none⟩

/-- The trip after its elector learned of an answer at `now`. -/
def hear (e : Elector) (now : Lease.Instant) (answer : LeaseAnswer) (t : Trip) : Trip :=
  match t.errand.receive e now answer with
  | some errand =>
    { t with errand := errand, mail := .outgoing, seen := (Elector.leaseOf answer).toOption.join }
  | none => { t with attended := false }

end Trip

/-- The store of a lease and the errands of all electors, each under a name. -/
structure Contest (ι : Type) where
  store : LeaseStore
  trips : ι → Option Trip
  /-- How many takeovers were accepted. -/
  takeovers : Nat

/-- What happens in a contest. -/
inductive Event (ι : Type) where
  /-- An attempt begins when the clock of its elector shows `now`. -/
  | attempt (k : ι) (now : Lease.Instant)
  /-- A release begins when the clock of its elector shows `now`. -/
  | release (k : ι) (now : Lease.Instant)
  /-- The request of an errand reaches the server. -/
  | serve (k : ι)
  /-- The answer of the server reaches the elector. -/
  | deliver (k : ι) (now : Lease.Instant)
  /-- The elector learns of a fault, wherever its request is. -/
  | fail (k : ι) (now : Lease.Instant) (fault : Fault)
  /-- The elector stops waiting. -/
  | abandon (k : ι)
  deriving Repr, DecidableEq

namespace Contest

variable {ι : Type} [DecidableEq ι]

/-- The contest in which nothing has happened yet. -/
def start (store : LeaseStore) : Contest ι := ⟨store, fun _ => none, 0⟩

/-- The contest after an errand moved on. -/
def setTrip (s : Contest ι) (k : ι) (t : Trip) : Contest ι :=
  { s with trips := Function.update s.trips k (some t) }

/-- The contest after the request of an errand reached the server. -/
def serve (s : Contest ι) (k : ι) (t : Trip) : Contest ι where
  store := (s.store.handle t.errand.call).1
  trips := Function.update s.trips k
    (some { t with mail := .answered (s.store.handle t.errand.call).2 })
  takeovers :=
    if t.errand.isTakeover && (s.store.handle t.errand.call).2.isOk then s.takeovers + 1
    else s.takeovers

/-- One event of a contest. The elector of an errand is given by its name. -/
inductive Step (who : ι → Elector) (s : Contest ι) : Event ι → Contest ι → Prop
  | attempt {k : ι} {now : Lease.Instant} (hnew : s.trips k = none) :
      Step who s (.attempt k now) (s.setTrip k (.attempt now))
  | release {k : ι} {now : Lease.Instant} (hnew : s.trips k = none) :
      Step who s (.release k now) (s.setTrip k (.release now))
  | serve {k : ι} {t : Trip} (htrip : s.trips k = some t) (hmail : t.mail = .outgoing) :
      Step who s (.serve k) (s.serve k t)
  | deliver {k : ι} {now : Lease.Instant} {t : Trip} {answer : LeaseAnswer}
      (htrip : s.trips k = some t) (hattended : t.attended = true)
      (hmail : t.mail = .answered answer) :
      Step who s (.deliver k now) (s.setTrip k (t.hear (who k) now answer))
  | fail {k : ι} {now : Lease.Instant} {fault : Fault} {t : Trip} (htrip : s.trips k = some t)
      (hattended : t.attended = true) :
      Step who s (.fail k now fault) (s.setTrip k (t.hear (who k) now (.error fault)))
  | abandon {k : ι} {t : Trip} (htrip : s.trips k = some t) :
      Step who s (.abandon k) (s.setTrip k { t with attended := false })

/-- Any sequence of events. -/
inductive Run (who : ι → Elector) : Contest ι → List (Event ι) → Contest ι → Prop
  | nil (s : Contest ι) : Run who s [] s
  | cons {s s' s'' : Contest ι} {event : Event ι} {events : List (Event ι)}
      (hstep : Step who s event s') (hrun : Run who s' events s'') :
      Run who s (event :: events) s''

variable {who : ι → Elector} {s s' : Contest ι}

@[simp]
theorem trips_setTrip_self (k : ι) (t : Trip) : (s.setTrip k t).trips k = some t :=
  Function.update_self ..

theorem trips_setTrip_of_ne {j k : ι} (h : j ≠ k) (t : Trip) :
    (s.setTrip k t).trips j = s.trips j :=
  Function.update_of_ne h ..

@[simp]
theorem trips_serve_self (k : ι) (t : Trip) : (s.serve k t).trips k =
    some { t with mail := .answered (s.store.handle t.errand.call).2 } :=
  Function.update_self ..

theorem trips_serve_of_ne {j k : ι} (h : j ≠ k) (t : Trip) :
    (s.serve k t).trips j = s.trips j :=
  Function.update_of_ne h ..

/-- The errands after one of them moved on. -/
theorem trips_setTrip_cases {j k : ι} {t t' : Trip} (h : (s.setTrip k t).trips j = some t') :
    j = k ∧ t' = t ∨ j ≠ k ∧ s.trips j = some t' := by
  by_cases hjk : j = k
  · subst hjk
    rw [trips_setTrip_self] at h
    exact .inl ⟨rfl, (Option.some.inj h).symm⟩
  · rw [trips_setTrip_of_ne hjk] at h
    exact .inr ⟨hjk, h⟩

/-- The errands after the request of one of them reached the server. -/
theorem trips_serve_cases {j k : ι} {t t' : Trip} (h : (s.serve k t).trips j = some t') :
    j = k ∧ t' = { t with mail := .answered (s.store.handle t.errand.call).2 } ∨
      j ≠ k ∧ s.trips j = some t' := by
  by_cases hjk : j = k
  · subst hjk
    rw [trips_serve_self] at h
    exact .inl ⟨rfl, (Option.some.inj h).symm⟩
  · rw [trips_serve_of_ne hjk] at h
    exact .inr ⟨hjk, h⟩

@[simp]
theorem store_serve (k : ι) (t : Trip) :
    (s.serve k t).store = (s.store.handle t.errand.call).1 := rfl

/-- Only an accepted takeover adds to the count. -/
theorem takeovers_serve (k : ι) (t : Trip) : (s.serve k t).takeovers =
    if t.errand.isTakeover && (s.store.handle t.errand.call).2.isOk then s.takeovers + 1
    else s.takeovers := rfl

/-- What every event preserves, every run preserves. -/
theorem Run.preserves {P : Contest ι → Prop}
    (hstep : ∀ {s s' : Contest ι} {event : Event ι}, Step who s event s' → P s → P s')
    {events : List (Event ι)} (hrun : Run who s events s') (hs : P s) : P s' := by
  induction hrun with
  | nil => exact hs
  | cons h _ ih => exact ih (hstep h hs)

/-! ### What an errand knows -/

end Contest

@[simp]
theorem Trip.began_hear (e : Elector) (now : Lease.Instant) (answer : LeaseAnswer) (t : Trip) :
    (t.hear e now answer).began = t.began := by
  unfold hear
  split <;> rfl

/-- The trip of an attempt that goes on after an answer. -/
theorem Trip.hear_of_inl {e : Elector} {now : Lease.Instant} {answer : LeaseAnswer} {t : Trip}
    {a a' : Attempt} (herrand : t.errand = .attempt a) (hnext : a.receive e answer = .inl a') :
    t.hear e now answer = { t with
      errand := .attempt a'
      mail := .outgoing
      seen := (Elector.leaseOf answer).toOption.join } := by
  simp [hear, herrand, Errand.receive, hnext]

/-- The trip of an attempt that is over after an answer. -/
theorem Trip.hear_of_inr {e : Elector} {now : Lease.Instant} {answer : LeaseAnswer} {t : Trip}
    {a : Attempt} {verdict : Verdict} (herrand : t.errand = .attempt a)
    (hnext : a.receive e answer = .inr verdict) :
    t.hear e now answer = { t with attended := false } := by
  simp [hear, herrand, Errand.receive, hnext]

/-- How an errand goes on after an answer: an attempt writes what follows from the lease that it
has read, a release clears a lease that the elector holds, and every other errand is over. -/
theorem Trip.hear_cases (e : Elector) (now : Lease.Instant) (answer : LeaseAnswer) (t : Trip) :
    (∃ began seen call hold, t.errand = .attempt (.reading began) ∧
        Elector.leaseOf answer = .ok seen ∧ e.Writes began seen call hold ∧
        t.hear e now answer =
          { t with errand := .attempt (.writing call hold), mail := .outgoing, seen := seen }) ∨
      (∃ l, t.errand = .release .reading ∧ answer = .ok l ∧ l.holder? = some e.identity ∧
        t.hear e now answer =
          { t with
            errand := .release (.clearing (.patch (Release.clearance now)))
            mail := .outgoing
            seen := some l }) ∨
      t.hear e now answer = { t with attended := false } := by
  cases herrand : t.errand with
  | attempt a =>
    cases ha : a.receive e answer with
    | inl a' =>
      obtain ⟨began, seen, call, hold, rfl, hseen, hwrites, rfl⟩ :=
        Attempt.eq_writing_of_receive ha
      refine .inl ⟨began, seen, call, hold, rfl, hseen, hwrites, ?_⟩
      rw [hear_of_inl herrand ha, hseen]
      rfl
    | inr verdict => exact .inr (.inr (by rw [hear_of_inr herrand ha, herrand]))
  | release r =>
    cases r with
    | clearing call =>
      refine .inr (.inr ?_)
      cases answer <;> simp [hear, herrand, Errand.receive, Release.receive]
    | reading =>
      rcases answer with fault | l
      · refine .inr (.inr ?_)
        by_cases hf : fault.isNotFound = true <;>
          simp [hear, herrand, Errand.receive, Release.receive, Elector.leaseOf, hf]
      · by_cases hown : l.holder? = some e.identity
        · refine .inr (.inl ⟨l, rfl, rfl, hown, ?_⟩)
          simp [hear, herrand, Errand.receive, Release.receive, Elector.leaseOf, hown,
            Except.toOption]
        · refine .inr (.inr ?_)
          simp [hear, herrand, Errand.receive, Release.receive, Elector.leaseOf, hown]

/-- What an errand knows about the store: leases that it has read, or is about to read, were stored
at some time, and what it writes follows from what it has read. -/
structure Trip.Sound (e : Elector) (store : LeaseStore) (t : Trip) : Prop where
  seen_issued : ∀ l, t.seen = some l → store.Issued l
  answer_issued : t.errand.call = .read → ∀ l, t.mail = .answered (.ok l) → store.Issued l
  reading_began : ∀ now, t.errand = .attempt (.reading now) → now = t.began
  writes_seen : ∀ call hold, t.errand = .attempt (.writing call hold) →
    e.Writes t.began t.seen call hold
  clears : ∀ call, t.errand = .release (.clearing call) →
    ∃ now, call = .patch (Release.clearance now)

namespace Trip.Sound

variable {e : Elector} {store : LeaseStore} {t : Trip}

theorem attempt (now : Lease.Instant) : (Trip.attempt now).Sound e store where
  seen_issued := by simp [Trip.attempt]
  answer_issued := by simp [Trip.attempt]
  reading_began := by simp [Trip.attempt]
  writes_seen := by simp [Trip.attempt]
  clears := by simp [Trip.attempt]

theorem release (now : Lease.Instant) : (Trip.release now).Sound e store where
  seen_issued := by simp [Trip.release]
  answer_issued := by simp [Trip.release]
  reading_began := by simp [Trip.release]
  writes_seen := by simp [Trip.release]
  clears := by simp [Trip.release]

theorem unattended (h : t.Sound e store) : Trip.Sound e store { t with attended := false } :=
  ⟨h.seen_issued, h.answer_issued, h.reading_began, h.writes_seen, h.clears⟩

/-- What an errand knows stays true while the store serves requests. -/
theorem handle (h : t.Sound e store) (call : LeaseCall) : t.Sound e (store.handle call).1 where
  seen_issued l hl := (h.seen_issued l hl).handle call
  answer_issued hread l hl := (h.answer_issued hread l hl).handle call
  reading_began := h.reading_began
  writes_seen := h.writes_seen
  clears := h.clears

/-- A request of the errand itself is answered with the stored lease. -/
theorem serve (h : t.Sound e store) (hstore : store.Coherent) :
    Trip.Sound e (store.handle t.errand.call).1
      { t with mail := .answered (store.handle t.errand.call).2 } where
  seen_issued l hl := (h.seen_issued l hl).handle _
  answer_issued hread l hl := by
    simp only [Mail.answered.injEq] at hl hread
    simp only [hread, LeaseStore.handle, LeaseStore.stored] at hl ⊢
    cases hlease : store.lease with
    | none => simp [hlease, LeaseStore.refuse] at hl
    | some current =>
      simp only [hlease, Except.ok.injEq] at hl
      exact hl ▸ hstore.issued hlease
  reading_began := h.reading_began
  writes_seen := h.writes_seen
  clears := h.clears

/-- An answer that the errand goes on with tells of a lease that was stored. -/
theorem hear (h : t.Sound e store) (now : Lease.Instant) {answer : LeaseAnswer}
    (hissued : t.errand.call = .read → ∀ l, answer = .ok l → store.Issued l) :
    (t.hear e now answer).Sound e store := by
  rcases t.hear_cases e now answer with
    ⟨began, seen, call, hold, herrand, hseen, hwrites, heq⟩ | ⟨l, herrand, rfl, hown, heq⟩ | heq
  · obtain rfl := h.reading_began began herrand
    rw [heq]
    refine ⟨?_, by simp, by simp, ?_, by simp⟩
    · rintro l rfl
      exact hissued (by rw [herrand]; rfl) l (Elector.eq_ok_of_leaseOf hseen)
    · rintro call' hold' heq'
      cases heq'
      exact hwrites
  · rw [heq]
    refine ⟨?_, by simp, by simp, by simp, ?_⟩
    · rintro l' hl'
      cases hl'
      exact hissued (by rw [herrand]; rfl) l rfl
    · rintro call hcall
      cases hcall
      exact ⟨now, rfl⟩
  · rw [heq]
    exact h.unattended

end Trip.Sound

namespace Contest

variable {ι : Type} [DecidableEq ι] {who : ι → Elector} {s s' : Contest ι}

/-- The stored lease carries its version, and every errand knows what it should. -/
structure Sound (who : ι → Elector) (s : Contest ι) : Prop where
  store : s.store.Coherent
  trips : ∀ k t, s.trips k = some t → t.Sound (who k) s.store

omit [DecidableEq ι] in
theorem sound_start {store : LeaseStore} (h : store.Coherent) : (start store).Sound who :=
  ⟨h, fun _ _ ht => nomatch ht⟩

theorem Sound.setTrip (hs : s.Sound who) {k : ι} {t : Trip} (ht : t.Sound (who k) s.store) :
    (s.setTrip k t).Sound who where
  store := hs.store
  trips j t' hj := by
    rcases trips_setTrip_cases hj with ⟨rfl, rfl⟩ | ⟨-, hj⟩
    · exact ht
    · exact hs.trips j t' hj

theorem Sound.serve (hs : s.Sound who) {k : ι} {t : Trip} (ht : s.trips k = some t) :
    (s.serve k t).Sound who where
  store := hs.store.handle _
  trips j t' hj := by
    rcases trips_serve_cases hj with ⟨rfl, rfl⟩ | ⟨-, hj⟩
    · exact (hs.trips j t ht).serve hs.store
    · exact (hs.trips j t' hj).handle _

/-- Every event keeps a contest sound. -/
theorem Step.sound {event : Event ι} (hstep : Step who s event s') (hs : s.Sound who) :
    s'.Sound who := by
  cases hstep with
  | attempt hnew => exact hs.setTrip (.attempt _)
  | release hnew => exact hs.setTrip (.release _)
  | serve htrip hmail => exact hs.serve htrip
  | deliver htrip hattended hmail =>
    refine hs.setTrip ((hs.trips _ _ htrip).hear _ fun hread l hl => ?_)
    exact (hs.trips _ _ htrip).answer_issued hread l (hl ▸ hmail)
  | fail htrip hattended =>
    exact hs.setTrip ((hs.trips _ _ htrip).hear _ fun _ l hl => nomatch hl)
  | abandon htrip => exact hs.setTrip (hs.trips _ _ htrip).unattended

/-- Every contest over a coherent store is sound. -/
theorem Run.sound {store : LeaseStore} (hstore : store.Coherent) {events : List (Event ι)}
    (hrun : Run who (start store) events s) : s.Sound who :=
  hrun.preserves (fun hstep hs => hstep.sound hs) (sound_start hstore)

omit [DecidableEq ι] in
/-- An accepted write of an attempt replaces exactly the lease that the attempt has read, or its
absence. -/
theorem Sound.lease_eq_seen (hs : s.Sound who) {k : ι} {t : Trip} (htrip : s.trips k = some t)
    {call : LeaseCall} {hold : Hold} (herrand : t.errand = .attempt (.writing call hold))
    {l : Lease} (haccepted : s.store.Accepts call l) : s.store.lease = t.seen := by
  have hsound := hs.trips k t htrip
  cases hseen : t.seen with
  | none =>
    have hwrites := hsound.writes_seen call hold herrand
    rw [hseen] at hwrites
    cases hwrites
    cases haccepted with
    | create habsent => exact habsent
  | some l' =>
    -- The version that the write names is that of the lease read, whichever way it writes.
    have hversion : ∃ version, l'.resourceVersion = some version ∧ call = .replace l ∧
        l.resourceVersion = l'.resourceVersion := by
      have hwrites := hsound.writes_seen call hold herrand
      rw [hseen] at hwrites
      cases hwrites with
      | renew hown hversion =>
        cases haccepted
        exact ⟨_, hversion, rfl, rfl⟩
      | takeOver hforeign hexpired hversion hroom =>
        cases haccepted
        exact ⟨_, hversion, rfl, hversion.symm⟩
    obtain ⟨version, hsome, rfl, hsame⟩ := hversion
    cases haccepted with
    | replace hstored hcurrent =>
      exact (hsound.seen_issued l' hseen).lease_eq hs.store hstored hsome (hsame ▸ hcurrent)

omit [DecidableEq ι] in
/-- After a change nothing is stored that an attempt has read before. -/
theorem Sound.seen_ne_put (hs : s.Sound who) {k : ι} {t : Trip} (htrip : s.trips k = some t)
    {call : LeaseCall} {hold : Hold} (herrand : t.errand = .attempt (.writing call hold))
    (l : Lease) (extra : List (String × Json)) : t.seen ≠ (s.store.put l extra).lease := by
  have hsound := hs.trips k t htrip
  have hwrites := hsound.writes_seen call hold herrand
  cases hseen : t.seen with
  | none => exact nofun
  | some l' =>
    have hissued := hsound.seen_issued l' hseen
    rw [hseen] at hwrites
    cases hwrites with
    | renew hown hversion => exact (hissued.lease_put_ne hversion extra).symm
    | takeOver hforeign hexpired hversion hroom =>
      exact (hissued.lease_put_ne hversion extra).symm

/-- What a request of an attempt does when it is served: it changes nothing, and then no write is
confirmed, or it is a write that follows from the stored lease. -/
theorem Sound.serve_attempt (hs : s.Sound who) {k : ι} {t : Trip} (htrip : s.trips k = some t)
    {a : Attempt} (herrand : t.errand = .attempt a) :
    ((s.serve k t).store = s.store ∧ (s.serve k t).takeovers = s.takeovers ∧
        ¬ Trip.Confirmed { t with mail := .answered (s.store.handle t.errand.call).2 }) ∨
      ∃ call hold l extra, a = .writing call hold ∧
        (who k).Writes t.began s.store.lease call hold ∧ s.store.Accepts call l ∧
        s.store.handle call =
          (s.store.put l extra, .ok { l with resourceVersion := s.store.nextVersion }) := by
  have hwrite : ∀ call hold, t.errand = .attempt (.writing call hold) → t.errand.call ≠ .read := by
    intro call hold hw
    rw [hw]
    exact ((hs.trips k t htrip).writes_seen call hold hw).call_ne_read
  rcases s.store.handle_cases t.errand.call with
    ⟨hread, heq⟩ | ⟨status, heq⟩ | ⟨l, extra, haccepted, heq⟩
  · refine .inl ⟨by rw [store_serve, heq], ?_, ?_⟩
    · cases a with
      | reading now => simp [takeovers_serve, herrand, Errand.isTakeover]
      | writing call hold => exact absurd hread (hwrite call hold herrand)
    · rintro ⟨call, hold, l, hw, -⟩
      exact hwrite call hold hw hread
  · refine .inl ⟨by rw [store_serve, heq], ?_, ?_⟩
    · simp [takeovers_serve, heq, LeaseStore.refuse, Except.isOk, Except.toBool]
    · rintro ⟨call, hold, l, -, hmail⟩
      rw [heq] at hmail
      exact nomatch Mail.answered.inj hmail
  · rw [herrand] at haccepted heq
    cases a with
    | reading now => cases haccepted
    | writing call hold =>
      refine .inr ⟨call, hold, l, extra, rfl, ?_, haccepted, heq⟩
      rw [hs.lease_eq_seen htrip herrand haccepted]
      exact (hs.trips k t htrip).writes_seen call hold herrand

/-- The store after a write was accepted. -/
theorem store_serve_of_handle_eq {k : ι} {t : Trip} {call : LeaseCall} {hold : Hold}
    (herrand : t.errand = .attempt (.writing call hold)) {l : Lease} {extra : List (String × Json)}
    {answer : LeaseAnswer} (heq : s.store.handle call = (s.store.put l extra, answer)) :
    (s.serve k t).store = s.store.put l extra := by
  rw [store_serve, herrand]
  exact congrArg Prod.fst heq

/-- Two electors with the same timing. -/
def rivals (timing : Timing) (second : Bool) : Elector where
  identity := if second then "b" else "a"
  leaseName := Elector.standardLease
  namespaceName := "default"
  timing := timing

/-- The store in which the first of two rivals holds the lease. -/
def heldByFirst (timing : Timing) : LeaseStore :=
  LeaseStore.empty.put ((rivals timing false).freshLease 0 0 none) []

theorem rivals_injective (timing : Timing) (i j : Bool)
    (h : (rivals timing i).identity = (rivals timing j).identity) : i = j := by
  cases i <;> cases j <;> first | rfl | simp [rivals] at h

end Contest

end ControllerManager.Election
