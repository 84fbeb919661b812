import ControllerManager.Proofs.Election.Session
import ControllerManager.Proofs.Simulation.Ownership

/-!
# A lease that was given back

A release removes the holder and nothing else that counts: the lease keeps its count of transitions,
and the patch gives it a version of its own. Without a holder a lease is free for everybody at once,
whatever the clocks of the electors show, so that the next attempt takes it over. A release over any
other lease writes nothing.

## Main definitions

* `Election.Vacant` — a store whose lease the next attempt of anybody takes over.

## Main results

* `Election.Elector.vacant_of_unheld` — a lease without a holder is free.
* `Election.Elector.release_vacates`.
-/

namespace ControllerManager

namespace Cluster.LeaseStore

/-- Where the stored lease carries a version, every later one does. -/
theorem Coherent.nextVersion {s : LeaseStore} (hs : s.Coherent) {l : Lease}
    (hlease : s.lease = some l) (hversion : l.resourceVersion.isSome = true) :
    ∃ version, s.nextVersion = some version := by
  have hversioned : s.versioned = true := by
    rw [hs l hlease] at hversion
    by_contra hnot
    simp [stamp, hnot] at hversion
  exact ⟨_, if_pos hversioned⟩

end Cluster.LeaseStore

namespace Election

open Cluster

/-- The next attempt of anybody, at any time, takes the lease over: it is stored under the name of
whoever made the attempt, and has changed hands once more than `transitions`. -/
def Vacant (s : LeaseStore) (transitions : Int32) : Prop :=
  ∀ (e : Elector) (now : Lease.Instant), ∃ n l,
    (e.attempt now s [none, none]).state = .inr (.held (.tookOver n)) ∧
      n.toInt = transitions.toInt + 1 ∧
      (e.attempt now s [none, none]).store.lease = some l ∧
      l.holder? = some e.identity ∧ l.spec.bind Lease.Spec.transitions = some n

namespace Elector

variable {e : Elector} {now : Lease.Instant} {s : LeaseStore} {l : Lease}

/-! ### Attempts that are answered -/

/-- An attempt whose requests are handled gains the lease by the write that follows from what is
stored. -/
theorem attempt_of_writes {call : LeaseCall} {hold : Hold} (h : e.Writes now s.lease call hold)
    (haccepted : s.Accepts call l) :
    (e.attempt now s [none, none]).state = .inr (.held hold) ∧
      (e.attempt now s [none, none]).store = s.put l [] := by
  have hread : e.afterRead now (s.treat none .read).2 = .write call hold := by
    have hreceive := h.receive_stored
    simp only [Attempt.receive] at hreceive
    split at hreceive
    · cases hreceive
    · rename_i heq
      cases hreceive
      exact heq
  rw [attempt_of_write none [] hread, LeaseStore.treat_none s call,
    haccepted.handle_eq h.call_ne_patch]
  exact ⟨rfl, rfl⟩

/-- A lease without a holder is free: nothing else is asked about it, not even what the clock
shows. -/
theorem vacant_of_unheld {version : String} (hlease : s.lease = some l)
    (hunheld : l.holder? = none) (hversion : l.resourceVersion = some version)
    (hroom : l.transitions ≠ maxTransitions) : Vacant s l.transitions := by
  intro e now
  have hexpired : l.expired? now = some true := by simp [Lease.expired?, hunheld]
  have hwrites : e.Writes now s.lease
      (.replace (e.freshLease now (l.transitions + 1) (some version)))
      (.tookOver (l.transitions + 1)) := by
    rw [hlease]
    exact .takeOver (by simp [hunheld]) hexpired hversion hroom
  obtain ⟨hstate, hstore⟩ := attempt_of_writes hwrites (.replace hlease hversion.symm)
  rw [hstore]
  exact ⟨_, _, hstate, toInt_add_one hroom, rfl, rfl, rfl⟩

/-! ### Releases -/

/-- A release over a lease that its elector does not hold ends after the reading. -/
theorem release_of_not_held (h : ∀ l, s.lease = some l → l.holder? ≠ some e.identity)
    (failures : List (Option Fault)) :
    e.release now s (none :: failures) = ⟨[(.read, s.stored)], s, .inr (.ok ())⟩ := by
  have hreceive : Release.reading.receive e now (s.treat none Release.reading.call).2 =
      .inr (.ok ()) := by
    cases hlease : s.lease with
    | none =>
      simp only [LeaseStore.treat_none, Release.call, LeaseStore.handle, LeaseStore.stored, hlease]
      rfl
    | some l =>
      simp [Release.receive, Release.call, LeaseStore.handle, LeaseStore.stored, hlease, leaseOf,
        h l hlease]
  rw [release, Session.run_cons_of_inr hreceive]
  rfl

/-- A release over a lease of its elector goes on to the patch. -/
theorem release_of_held (hlease : s.lease = some l) (hown : l.holder? = some e.identity)
    (onWrite : Option Fault) (failures : List (Option Fault)) :
    e.release now s (none :: onWrite :: failures) =
      (Session.run Release.call (Release.receive e now)
        (.clearing (.patch (Release.clearance now))) s (onWrite :: failures)).after
          (.read, .ok l) := by
  have hanswer : (s.treat none Release.reading.call).2 = .ok l := by
    simp [Release.call, LeaseStore.handle, LeaseStore.stored, hlease]
  have hreceive : Release.reading.receive e now (s.treat none Release.reading.call).2 =
      .inl (.clearing (.patch (Release.clearance now))) := by
    rw [hanswer]
    simp [Release.receive, leaseOf, hown]
  rw [release, Session.run_cons_of_inl hreceive, hanswer]
  rfl

/-- A release that is handled removes the holder. -/
theorem release_of_handled (now : Lease.Instant) (hlease : s.lease = some l)
    (hown : l.holder? = some e.identity) :
    (e.release now s [none, none]).state = .inr (.ok ()) ∧
      (e.release now s [none, none]).store =
        s.put (LeaseStore.change (Release.clearance now) l) s.extra := by
  have hhandle : s.handle (.patch (Release.clearance now)) =
      (s.put (LeaseStore.change (Release.clearance now) l) s.extra,
        .ok { LeaseStore.change (Release.clearance now) l with
          resourceVersion := s.nextVersion }) := by
    simp [LeaseStore.handle, hlease, LeaseStore.put, LeaseStore.stored]
  rw [release_of_held hlease hown, Session.run_cons_of_inr (b := .ok ())]
  · simp [Session.after, Release.call, hhandle]
  · simp [Release.receive, Release.call, hhandle]

/-- A release over a lease of its elector succeeds only if both of its requests are handled, unless
it is told that there is no lease. -/
theorem handled_of_release_ok {onRead onWrite : Option Fault} (hlease : s.lease = some l)
    (hown : l.holder? = some e.identity) (hpresent : onRead.any Fault.isNotFound = false)
    (hok : (e.release now s [onRead, onWrite]).state = .inr (.ok ())) :
    onRead = none ∧ onWrite = none := by
  cases onRead with
  | some fault =>
    have hreceive : Release.reading.receive e now
        (s.treat (some fault) Release.reading.call).2 = .inr (.error (.kube fault)) := by
      simp [Release.receive, leaseOf, LeaseStore.treat_some,
        show fault.isNotFound = false from hpresent]
    rw [release, Session.run_cons_of_inr hreceive] at hok
    cases hok
  | none =>
    cases onWrite with
    | none => exact ⟨rfl, rfl⟩
    | some fault =>
      rw [release_of_held hlease hown, Session.run_cons_of_inr rfl] at hok
      cases hok

/-! ### What a release leaves behind -/

theorem transitions_change_clearance (now : Lease.Instant) (l : Lease) :
    (LeaseStore.change (Release.clearance now) l).transitions = l.transitions := by
  cases hspec : l.spec <;>
    simp [LeaseStore.change, Lease.transitions, Lease.SpecPatch.apply, Release.clearance, hspec]

/-- **A lease that was given back is free.** A release over a lease of its elector succeeds if its
requests are handled. Whenever it succeeds, and was not told that there is no lease, the next
attempt of anybody takes the lease over, whatever the clock shows then, provided that the lease
carries a version and its count of transitions is not full. A release over a lease that is absent,
has no holder or belongs to somebody else sends nothing but the reading, and succeeds. Coherent is
every store that begins so, whatever is asked of it (`Coherent.handle`). -/
theorem release_vacates (e : Elector) (released : Lease.Instant) {s : LeaseStore}
    (hcoherent : s.Coherent) :
    (∀ l, s.lease = some l → l.holder? = some e.identity →
      (e.release released s [none, none]).state = .inr (.ok ()) ∧
      ∀ onRead onWrite, l.resourceVersion.isSome = true → l.transitions ≠ maxTransitions →
        onRead.any Fault.isNotFound = false →
        (e.release released s [onRead, onWrite]).state = .inr (.ok ()) →
        Vacant (e.release released s [onRead, onWrite]).store l.transitions) ∧
    ((∀ l, s.lease = some l → l.holder? ≠ some e.identity) →
      e.release released s [none, none] = ⟨[(.read, s.stored)], s, .inr (.ok ())⟩) := by
  refine ⟨fun l hlease hown => ?_, fun h => release_of_not_held h _⟩
  obtain ⟨hstate, hstore⟩ := release_of_handled released hlease hown
  refine ⟨hstate, fun onRead onWrite hversion hroom hpresent hok => ?_⟩
  obtain ⟨rfl, rfl⟩ := handled_of_release_ok hlease hown hpresent hok
  obtain ⟨version, hnext⟩ := hcoherent.nextVersion hlease hversion
  rw [← transitions_change_clearance released l] at hroom ⊢
  rw [hstore]
  exact vacant_of_unheld
    (l := { LeaseStore.change (Release.clearance released) l with
      resourceVersion := s.nextVersion })
    rfl (LeaseStore.holder?_change_clearance released l) hnext hroom

/-- The first rival gives its lease back, and the second one takes it over although its clock shows
an earlier time. Before that, the release of the second rival does nothing. -/
theorem release_vacates_heldByFirst :
    (∃ n l, ((Contest.rivals .standard true).attempt (-1)
        ((Contest.rivals .standard false).release 0 (Contest.heldByFirst .standard)
          [none, none]).store [none, none]).state = .inr (.held (.tookOver n)) ∧ n.toInt = 1 ∧
      ((Contest.rivals .standard true).attempt (-1)
        ((Contest.rivals .standard false).release 0 (Contest.heldByFirst .standard)
          [none, none]).store [none, none]).store.lease = some l ∧ l.holder? = some "b") ∧
    ((Contest.rivals .standard true).release 0 (Contest.heldByFirst .standard)
      [none, none]).store.version = (Contest.heldByFirst .standard).version := by
  have hcoherent : (Contest.heldByFirst .standard).Coherent := LeaseStore.coherent_put _ _ _
  obtain ⟨hstate, hvacant⟩ := (release_vacates (Contest.rivals .standard false) 0 hcoherent).1 _
    rfl rfl
  obtain ⟨n, l, htaken, hnext, hlease, hholder, -⟩ :=
    hvacant none none rfl (by decide) rfl hstate (Contest.rivals .standard true) (-1)
  have hidle := (release_vacates (Contest.rivals .standard true) 0 hcoherent).2 (by
    rintro l hl
    cases hl
    decide)
  exact ⟨⟨n, l, htaken, hnext, hlease, hholder⟩, by rw [hidle]⟩

end Elector

end Election

end ControllerManager
