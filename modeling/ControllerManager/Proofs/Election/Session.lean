import ControllerManager.Proofs.Election.Protection

/-!
# What attempts do to the lease

An attempt or a release from its first request to its end, over a store to which nobody else writes
in the meantime. Each request is handled by the store, or fails on its way and leaves the store
alone. The verdict of an attempt then says what became of the lease: a lease that was gained is
new, or renewed, or taken over, and without the lease gained the store is what it was.

## Main definitions

* `Cluster.LeaseStore.treat` — a request that is handled or fails on its way.
* `Election.Session` — the requests of an attempt or a release, with what comes of it.
* `Election.Elector.attempt`, `Election.Elector.release` — a whole attempt and a whole release.
* `Election.Elector.Gains` — how an attempt that gains the lease leaves it.
* `Election.Elector.Declines` — why an attempt does not gain the lease, although nothing failed.

## Main results

* `Election.Elector.attempt_effect` — what every verdict says about the store.
-/

namespace ControllerManager

namespace Lease

/-- Everybody may have the lease at `now`: it has no holder, or no renewal or duration by which it
could last, or it has expired. -/
def FreeAt (l : Lease) (now : Instant) : Prop :=
  l.holder? = none ∨ l.renewTime? = none ∨ l.durationSeconds? = none ∨
    ∃ renewed duration, l.renewTime? = some renewed ∧ l.durationSeconds? = some duration ∧
      renewed + duration.toInt * Instant.perSecond < now

/-- A lease that counts as expired is free. -/
theorem freeAt_of_expired? {l : Lease} {now : Instant} (h : l.expired? now = some true) :
    l.FreeAt now := by
  rcases hholder : l.holder? with _ | holder
  · exact .inl hholder
  rcases hrenewed : l.renewTime? with _ | renewed
  · exact .inr (.inl hrenewed)
  rcases hduration : l.durationSeconds? with _ | duration
  · exact .inr (.inr (.inl hduration))
  exact .inr (.inr (.inr ⟨renewed, duration, hrenewed, hduration,
    lt_of_expired? hholder hrenewed hduration h⟩))

end Lease

namespace Cluster.LeaseStore

/-! ### Requests that may fail on their way -/

/-- The store after a request, and the answer. The request is handled, unless it fails on its
way. -/
def treat (s : LeaseStore) (failure : Option Fault) (call : LeaseCall) : LeaseStore × LeaseAnswer :=
  match failure with
  | none => s.handle call
  | some fault => (s, .error fault)

@[simp]
theorem treat_none (s : LeaseStore) (call : LeaseCall) : s.treat none call = s.handle call := rfl

theorem treat_some (s : LeaseStore) (fault : Fault) (call : LeaseCall) :
    s.treat (some fault) call = (s, .error fault) := rfl

/-- Reading changes nothing. -/
theorem treat_read_fst (s : LeaseStore) (failure : Option Fault) :
    (s.treat failure .read).1 = s := by
  cases failure <;> rfl

/-- Only a request that is answered with the lease changes anything. -/
theorem treat_fst_of_error {s : LeaseStore} {failure : Option Fault} {call : LeaseCall}
    {fault : Fault} (h : (s.treat failure call).2 = .error fault) :
    (s.treat failure call).1 = s := by
  cases failure with
  | some fault' => rfl
  | none =>
    rw [treat_none] at h ⊢
    rcases s.handle_cases call with ⟨-, heq⟩ | ⟨status, heq⟩ | ⟨l, extra, -, heq⟩
    · rw [heq]
    · rw [heq]
    · rw [heq] at h
      cases h

/-- A request that is answered with the lease was handled. -/
theorem treat_of_ok {s : LeaseStore} {failure : Option Fault} {call : LeaseCall} {l : Lease}
    (h : (s.treat failure call).2 = .ok l) : s.treat failure call = s.handle call := by
  cases failure with
  | none => rfl
  | some fault => cases h

/-- A lease that is sent as a whole replaces all that is stored. -/
theorem Accepts.handle_eq {s : LeaseStore} {call : LeaseCall} {l : Lease} (h : s.Accepts call l)
    (hwhole : ∀ p, call ≠ .patch p) :
    s.handle call = (s.put l [], .ok { l with resourceVersion := s.nextVersion }) := by
  cases h with
  | create habsent => simp [handle, habsent, put, stored]
  | replace hstored hversion => simp [handle, hstored, hversion, put, stored]
  | patch hstored => exact absurd rfl (hwhole _)

end Cluster.LeaseStore

namespace Election

open Cluster

/-! ### Sessions -/

/-- The requests of an attempt or a release, each with its answer, the store after them, and what
waits for another answer or how it ended. -/
structure Session (α β : Type) where
  exchanges : List (LeaseCall × LeaseAnswer)
  store : LeaseStore
  state : α ⊕ β

namespace Session

variable {α β : Type}

/-- An exchange before a session. -/
def after (exchange : LeaseCall × LeaseAnswer) (t : Session α β) : Session α β :=
  { t with exchanges := exchange :: t.exchanges }

/-- A session with a store to which nobody else writes. Each request is made by `call` and its
answer received by `receive`; the failures say for one request after the other whether it fails on
its way. The session stops where nothing more is said. -/
def run (call : α → LeaseCall) (receive : α → LeaseAnswer → α ⊕ β) (a : α) (s : LeaseStore) :
    List (Option Fault) → Session α β
  | [] => ⟨[], s, .inl a⟩
  | failure :: failures =>
    let treated := s.treat failure (call a)
    match receive a treated.2 with
    | .inl a' => (run call receive a' treated.1 failures).after (call a, treated.2)
    | .inr b => ⟨[(call a, treated.2)], treated.1, .inr b⟩

variable {call : α → LeaseCall} {receive : α → LeaseAnswer → α ⊕ β} {a : α} {s : LeaseStore}
  {failure : Option Fault}

theorem run_cons_of_inr {b : β} (h : receive a (s.treat failure (call a)).2 = .inr b)
    (failures : List (Option Fault)) :
    run call receive a s (failure :: failures) =
      ⟨[(call a, (s.treat failure (call a)).2)], (s.treat failure (call a)).1, .inr b⟩ := by
  simp only [run, h]

theorem run_cons_of_inl {a' : α} (h : receive a (s.treat failure (call a)).2 = .inl a')
    (failures : List (Option Fault)) :
    run call receive a s (failure :: failures) =
      (run call receive a' (s.treat failure (call a)).1 failures).after
        (call a, (s.treat failure (call a)).2) := by
  simp only [run, h]

end Session

namespace Elector

/-- An attempt that begins at `now`. -/
def attempt (e : Elector) (now : Lease.Instant) (s : LeaseStore)
    (failures : List (Option Fault)) : Session Attempt Verdict :=
  .run Attempt.call (Attempt.receive e) (.reading now) s failures

/-- A release whose answers come at `now`. -/
def release (e : Elector) (now : Lease.Instant) (s : LeaseStore)
    (failures : List (Option Fault)) : Session Release (Except Error Unit) :=
  .run Release.call (Release.receive e now) .reading s failures

variable {e : Elector} {now : Lease.Instant} {s : LeaseStore} {onRead onWrite : Option Fault}

/-- An attempt whose reading decides makes no other request. -/
theorem attempt_of_done {verdict : Verdict} (failures : List (Option Fault))
    (h : e.afterRead now (s.treat onRead .read).2 = .done verdict) :
    e.attempt now s (onRead :: failures) =
      ⟨[(.read, (s.treat onRead .read).2)], s, .inr verdict⟩ := by
  have hreceive : (Attempt.reading now).receive e (s.treat onRead (Attempt.reading now).call).2 =
      .inr verdict := by
    simp only [Attempt.receive, Attempt.call, h]
  rw [attempt, Session.run_cons_of_inr hreceive]
  simp [Attempt.call, LeaseStore.treat_read_fst]

/-- An attempt that writes ends with the answer to the write. -/
theorem attempt_of_write {call : LeaseCall} {hold : Hold} (onWrite : Option Fault)
    (failures : List (Option Fault))
    (h : e.afterRead now (s.treat onRead .read).2 = .write call hold) :
    e.attempt now s (onRead :: onWrite :: failures) =
      ⟨[(.read, (s.treat onRead .read).2), (call, (s.treat onWrite call).2)],
        (s.treat onWrite call).1, .inr (afterWrite hold (s.treat onWrite call).2)⟩ := by
  have hreceive : (Attempt.reading now).receive e (s.treat onRead (Attempt.reading now).call).2 =
      .inl (.writing call hold) := by
    simp only [Attempt.receive, Attempt.call, h]
  rw [attempt, Session.run_cons_of_inl hreceive, Session.run_cons_of_inr rfl]
  simp [Attempt.call, Session.after, LeaseStore.treat_read_fst]

/-- What an attempt has read is the stored lease, or it was told that there is none. -/
theorem seen_of_leaseOf {seen : Option Lease} (h : leaseOf (s.treat onRead .read).2 = .ok seen) :
    seen = s.lease ∨ seen = none := by
  cases seen with
  | none => exact .inr rfl
  | some l =>
    have hok := eq_ok_of_leaseOf h
    rw [LeaseStore.treat_of_ok hok] at hok
    exact .inl (LeaseStore.lease_eq_of_stored_eq_ok hok).symm

/-! ### Attempts that gain the lease -/

/-- How an attempt that begins at `now` leaves the store `s` when it gains the lease. A lease that
was not there is created. A lease of the elector is renewed, and only its time of renewal is
another. A lease that was free is taken over: its contents are those of a new lease, and it has
changed hands once more. Every stored lease has a version of its own. -/
inductive Gains (e : Elector) (now : Lease.Instant) (s : LeaseStore) : Hold → LeaseStore → Prop
  | created (habsent : s.lease = none) :
      Gains e now s .created
        (s.put
          { name := some e.leaseName
            namespaceName := some e.namespaceName
            resourceVersion := none
            labels := none
            spec := some ⟨some e.identity, some e.timing.leaseSeconds, some now, some now, some 0,
              none, none⟩ } [])
  | renewed {l : Lease} {spec : Lease.Spec} (hlease : s.lease = some l)
      (hspec : l.spec = some spec) (hown : spec.holder = some e.identity) :
      Gains e now s .renewed
        (s.put { l with spec := some { spec with renewTime := some now } } [])
  | tookOver {l : Lease} {n : Int32} (hlease : s.lease = some l)
      (hforeign : l.holder? ≠ some e.identity) (hfree : l.FreeAt now)
      (hnext : n.toInt = l.transitions.toInt + 1) :
      Gains e now s (.tookOver n)
        (s.put
          { name := some e.leaseName
            namespaceName := some e.namespaceName
            resourceVersion := l.resourceVersion
            labels := none
            spec := some ⟨some e.identity, some e.timing.leaseSeconds, some now, some now, some n,
              none, none⟩ } [])

/-- An accepted write gains the lease as its kind says, whether the stored lease was read or was
said to be absent. -/
theorem Writes.gains {seen : Option Lease} {call : LeaseCall} {hold : Hold} {l : Lease}
    (h : e.Writes now seen call hold) (hseen : seen = s.lease ∨ seen = none)
    (haccepted : s.Accepts call l) : e.Gains now s hold (s.put l []) := by
  cases h with
  | create =>
    cases haccepted with
    | create habsent => exact .created habsent
  | @renew l₀ version hown hversion =>
    have hlease : s.lease = some l₀ := (hseen.resolve_right nofun).symm
    cases haccepted
    obtain ⟨spec, hspec, hholder⟩ := Option.bind_eq_some_iff.1 hown
    have hgains : e.Gains now s .renewed _ := .renewed hlease hspec hholder
    simpa [renewedLease, hspec] using hgains
  | @takeOver l₀ version hforeign hexpired hversion hroom =>
    have hlease : s.lease = some l₀ := (hseen.resolve_right nofun).symm
    cases haccepted
    simpa [freshLease, freshSpec, hversion] using
      Gains.tookOver (e := e) hlease hforeign (Lease.freeAt_of_expired? hexpired)
        (toInt_add_one hroom)

theorem Writes.call_ne_patch {seen : Option Lease} {call : LeaseCall} {hold : Hold}
    (h : e.Writes now seen call hold) (p : Lease.SpecPatch) : call ≠ .patch p := by
  cases h <;> simp

/-! ### Attempts that do not gain the lease -/

/-- Why an attempt does not gain the lease, although nothing failed: somebody else holds it, and
only the reading was sent, or the write was refused as a conflict. -/
inductive Declines (e : Elector) (now : Lease.Instant) (s : LeaseStore)
    (t : Session Attempt Verdict) : Prop
  | held {l : Lease} (hlease : s.lease = some l) (hforeign : l.Foreign e.identity)
      (hlive : l.LiveAt now) (hsent : ∀ exchange ∈ t.exchanges, exchange.1 = .read)
  | conflict {call : LeaseCall} {refusal : Cluster.Refusal} (hwrite : call ≠ .read)
      (hanswer : (call, .error (.refused refusal)) ∈ t.exchanges) (hcode : refusal.code = 409)

/-- An elector is refused a lease that it has read only while somebody else holds it. -/
theorem act_eq_refused {seen : Option Lease} {refusal : Refusal}
    (h : e.act now seen = .done (.refused refusal)) :
    ∃ l, seen = some l ∧ l.Foreign e.identity ∧ l.LiveAt now := by
  cases seen with
  | none => cases h
  | some l =>
    refine ⟨l, rfl, ?_⟩
    have hwait : Lease.decision? (some l) e.identity now = some .wait := by
      unfold act at h
      rcases hdecision : Lease.decision? (some l) e.identity now with _ | (_ | _ | n | _)
      · simp [hdecision] at h
      · simp [hdecision] at h
      · cases hversion : l.resourceVersion <;> simp [hdecision, hversion, missingVersion] at h
      · cases hversion : l.resourceVersion with
        | none => simp [hdecision, hversion, missingVersion] at h
        | some version =>
          by_cases hfull : n = maxTransitions <;> simp [hdecision, hversion, hfull] at h
      · rfl
    exact (Lease.decision?_eq_wait_iff.1 hwait).imp_right And.left

/-- The first answer to an attempt decides it without a write only where it does not gain the
lease. -/
theorem isHeld_of_afterRead {answer : LeaseAnswer} {verdict : Verdict}
    (h : e.afterRead now answer = .done verdict) : verdict.isHeld = false := by
  rcases e.afterRead_cases now answer with ⟨error, heq⟩ | ⟨seen, -, heq⟩
  · cases heq.symm.trans h
    rfl
  · rcases e.act_cases now seen with ⟨_, _, hact, -⟩ | ⟨_, hact⟩ | ⟨_, hact⟩ | ⟨_, _, hact, -⟩ <;>
      cases (heq.trans hact).symm.trans h
    all_goals rfl

/-- Only a conflict refuses a write. -/
theorem code_of_afterWrite {hold : Hold} {answer : LeaseAnswer} {refusal : Refusal}
    (h : afterWrite hold answer = .refused refusal) :
    ∃ r, answer = .error (.refused r) ∧ r.code = 409 := by
  unfold afterWrite at h
  split at h
  · cases h
  · rename_i r
    split_ifs at h with hcode
    exact ⟨r, rfl, hcode⟩
  · cases h

/-- **What an attempt does to the lease.** An attempt ends after two requests at the latest, however
they are answered. If it gains the lease, then it has created, renewed or taken it over. If it is
refused the lease, then somebody else held it and nothing was written, or the write was refused as
a conflict. Unless it gains the lease, it leaves the store as it was. -/
theorem attempt_effect (e : Elector) (now : Lease.Instant) (s : LeaseStore)
    (onRead onWrite : Option Fault) :
    ∃ verdict, (e.attempt now s [onRead, onWrite]).state = .inr verdict ∧
      (∀ hold, verdict = .held hold →
        e.Gains now s hold (e.attempt now s [onRead, onWrite]).store) ∧
      (∀ refusal, verdict = .refused refusal →
        e.Declines now s (e.attempt now s [onRead, onWrite])) ∧
      (verdict.isHeld = false → (e.attempt now s [onRead, onWrite]).store = s) := by
  rcases hread : e.afterRead now (s.treat onRead .read).2 with verdict | ⟨call, hold⟩
  · have hsession := attempt_of_done [onWrite] hread
    rw [hsession]
    refine ⟨verdict, rfl, ?_, ?_, fun _ => rfl⟩
    · rintro hold rfl
      cases isHeld_of_afterRead hread
    · rintro refusal rfl
      rcases e.afterRead_cases now (s.treat onRead .read).2 with ⟨error, heq⟩ | ⟨seen, hseen, heq⟩
      · cases heq.symm.trans hread
      obtain ⟨l, rfl, hforeign, hlive⟩ := act_eq_refused (heq.symm.trans hread)
      have hlease : s.lease = some l := ((seen_of_leaseOf hseen).resolve_right nofun).symm
      exact .held hlease hforeign hlive (by simp)
  · have hsession := attempt_of_write onWrite [] hread
    rw [hsession]
    rcases e.afterRead_cases now (s.treat onRead .read).2 with ⟨error, heq⟩ | ⟨seen, hseen, heq⟩
    · cases heq.symm.trans hread
    have hwrites : e.Writes now seen call hold := act_eq_write_iff.1 (heq.symm.trans hread)
    refine ⟨_, rfl, ?_, ?_, ?_⟩
    · intro hold' hheld
      obtain ⟨_, written, hsame, hanswer⟩ := Attempt.eq_writing_of_held (e := e)
        (a := .writing call hold) (congrArg Sum.inr hheld)
      cases hsame
      have htreat := LeaseStore.treat_of_ok hanswer
      rw [htreat] at hanswer
      obtain ⟨l, extra, haccepted, -⟩ :=
        LeaseStore.accepts_of_handle_ok hwrites.call_ne_read hanswer
      rw [htreat, haccepted.handle_eq hwrites.call_ne_patch]
      exact hwrites.gains (seen_of_leaseOf hseen) haccepted
    · intro refusal hrefused
      obtain ⟨r, hanswer, hcode⟩ := code_of_afterWrite hrefused
      exact .conflict hwrites.call_ne_read (by simp [← hanswer]) hcode
    · intro hnot
      rcases hanswer : (s.treat onWrite call).2 with fault | written
      · exact LeaseStore.treat_fst_of_error hanswer
      · rw [hanswer] at hnot
        cases hnot

/-- The second rival finds the lease of the first one held at the last moment of its duration, and
takes it over a microsecond later. -/
theorem attempt_effect_around_expiry :
    (Contest.rivals .standard true).Declines 15000000 (Contest.heldByFirst .standard)
        ((Contest.rivals .standard true).attempt 15000000 (Contest.heldByFirst .standard)
          [none, none]) ∧
      (Contest.rivals .standard true).Gains 15000001 (Contest.heldByFirst .standard) (.tookOver 1)
        ((Contest.rivals .standard true).attempt 15000001 (Contest.heldByFirst .standard)
          [none, none]).store := by
  obtain ⟨_, hlast, -, hdeclines, -⟩ := attempt_effect (Contest.rivals .standard true) 15000000
    (Contest.heldByFirst .standard) none none
  obtain ⟨_, hafter, hgains, -, -⟩ := attempt_effect (Contest.rivals .standard true) 15000001
    (Contest.heldByFirst .standard) none none
  exact ⟨hdeclines .heldByOther (Sum.inr.inj (hlast.symm.trans rfl)),
    hgains (.tookOver 1) (Sum.inr.inj (hafter.symm.trans rfl))⟩

end Elector

end Election

end ControllerManager
