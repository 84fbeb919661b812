import ControllerManager.Cluster.LeaseStore
import Mathlib.Tactic.SplitIfs

/-!
# Versions in the store of a lease

Every change of the stored lease has a version of its own, and a lease that was read carries the
version of the change that made it. A replacement under this version is therefore accepted only
while the very lease that was read is still the stored one.

## Main definitions

* `Cluster.LeaseStore.Coherent` — the stored lease carries the version of the last change.
* `Cluster.LeaseStore.Issued` — a lease that was handed out, at the latest now.
* `Cluster.LeaseStore.Accepts` — a request that changes the store, with the lease that it leaves.

## Main results

* `Cluster.LeaseStore.handle_cases` — what a request does to the store.
* `Cluster.LeaseStore.Issued.lease_eq` — a lease under the version of the stored one is the stored
  one.
-/

namespace ControllerManager.Cluster.LeaseStore

/-- What a lease carries that was stored as a change of this number. -/
def stamp (s : LeaseStore) (version : Nat) : Option String :=
  if s.versioned then some (toString version) else none

/-- Two changes have different versions. -/
theorem stamp_injective {s : LeaseStore} {v w : Nat} {text : String} (hv : s.stamp v = some text)
    (hw : s.stamp w = some text) : v = w := by
  unfold stamp at hv hw
  split_ifs at hv hw
  have htext : toString v = toString w := (Option.some.inj hv).trans (Option.some.inj hw).symm
  have hdigits : Nat.toDigits 10 v = Nat.toDigits 10 w := by
    simpa using congrArg String.toList htext
  simpa using congrArg (Nat.ofDigitChars 10 · 0) hdigits

/-- The stored lease carries the version of the last change. -/
def Coherent (s : LeaseStore) : Prop :=
  ∀ l, s.lease = some l → l.resourceVersion = s.stamp s.version

/-- A lease that the store handed out at some time. Under the version of the last change it is the
stored one. -/
def Issued (s : LeaseStore) (l : Lease) : Prop :=
  ∃ v ≤ s.version, l.resourceVersion = s.stamp v ∧ (v = s.version → s.lease = some l)

/-- A request that the store accepts, with the lease that it keeps then. -/
inductive Accepts (s : LeaseStore) : LeaseCall → Lease → Prop
  | create {l : Lease} (habsent : s.lease = none) : Accepts s (.create l) l
  | replace {l current : Lease} (hstored : s.lease = some current)
      (hversion : l.resourceVersion = current.resourceVersion) : Accepts s (.replace l) l
  | patch {p : Lease.SpecPatch} {current : Lease} (hstored : s.lease = some current) :
      Accepts s (.patch p) (change p current)

/-! ### Requests -/

/-- A request reads the lease, or is refused and leaves the store alone, or is accepted. -/
theorem handle_cases (s : LeaseStore) (call : LeaseCall) :
    (call = .read ∧ s.handle call = (s, s.stored)) ∨
      (∃ status, s.handle call = (s, refuse status)) ∨
      ∃ l extra, s.Accepts call l ∧
        s.handle call = (s.put l extra, .ok { l with resourceVersion := s.nextVersion }) := by
  cases call with
  | read => exact .inl ⟨rfl, rfl⟩
  | create l =>
    cases hl : s.lease with
    | none => exact .inr (.inr ⟨l, [], .create hl, by simp [handle, hl, put, stored]⟩)
    | some current => exact .inr (.inl ⟨409, by simp [handle, hl]⟩)
  | replace l =>
    cases hl : s.lease with
    | none => exact .inr (.inl ⟨404, by simp [handle, hl]⟩)
    | some current =>
      by_cases hv : l.resourceVersion = current.resourceVersion
      · exact .inr (.inr ⟨l, [], .replace hl hv, by simp [handle, hl, hv, put, stored]⟩)
      · exact .inr (.inl ⟨409, by simp [handle, hl, hv]⟩)
  | patch p =>
    cases hl : s.lease with
    | none => exact .inr (.inl ⟨404, by simp [handle, hl]⟩)
    | some current =>
      exact .inr (.inr ⟨change p current, s.extra, .patch hl, by simp [handle, hl, put, stored]⟩)

/-- A write that is answered with a lease was accepted. -/
theorem accepts_of_handle_ok {s : LeaseStore} {call : LeaseCall} {answer : Lease}
    (hwrite : call ≠ .read) (h : (s.handle call).2 = .ok answer) :
    ∃ l extra, s.Accepts call l ∧
      s.handle call = (s.put l extra, .ok { l with resourceVersion := s.nextVersion }) := by
  rcases s.handle_cases call with ⟨hread, -⟩ | ⟨status, heq⟩ | haccepted
  · exact absurd hread hwrite
  · rw [heq] at h
    cases h
  · exact haccepted

/-- An answer that holds a lease holds the stored one. -/
theorem lease_eq_of_stored_eq_ok {s : LeaseStore} {l : Lease} (h : s.stored = .ok l) :
    s.lease = some l := by
  unfold stored at h
  split at h
  · cases h
    assumption
  · cases h

/-! ### Coherence -/

theorem coherent_empty : empty.Coherent := by
  intro l hl
  cases hl

theorem coherent_put (s : LeaseStore) (l : Lease) (extra : List (String × Json)) :
    (s.put l extra).Coherent := by
  intro l' hl'
  cases hl'
  rfl

theorem Coherent.handle {s : LeaseStore} (hs : s.Coherent) (call : LeaseCall) :
    (s.handle call).1.Coherent := by
  rcases s.handle_cases call with ⟨-, h⟩ | ⟨status, h⟩ | ⟨l, extra, -, h⟩
  · rwa [h]
  · rwa [h]
  · rw [h]
    exact s.coherent_put l extra

/-! ### Leases that were handed out -/

theorem Coherent.issued {s : LeaseStore} (hs : s.Coherent) {l : Lease} (hl : s.lease = some l) :
    s.Issued l :=
  ⟨s.version, Nat.le_refl _, hs l hl, fun _ => hl⟩

/-- A lease stays handed out through every request. -/
theorem Issued.handle {s : LeaseStore} {l : Lease} (h : s.Issued l) (call : LeaseCall) :
    (s.handle call).1.Issued l := by
  obtain ⟨v, hle, hstamp, hcurrent⟩ := h
  rcases s.handle_cases call with ⟨-, h⟩ | ⟨status, h⟩ | ⟨l', extra, -, h⟩
  · rw [h]
    exact ⟨v, hle, hstamp, hcurrent⟩
  · rw [h]
    exact ⟨v, hle, hstamp, hcurrent⟩
  · rw [h]
    -- The change has a later version than every lease handed out before.
    refine ⟨v, Nat.le_succ_of_le hle, hstamp, fun heq => absurd heq ?_⟩
    exact Nat.ne_of_lt (Nat.lt_succ_of_le hle)

/-- A lease that was handed out under the version of the stored lease is the stored lease. -/
theorem Issued.lease_eq {s : LeaseStore} {l current : Lease} (hl : s.Issued l) (hs : s.Coherent)
    (hstored : s.lease = some current) {version : String}
    (hversion : l.resourceVersion = some version)
    (hsame : l.resourceVersion = current.resourceVersion) : s.lease = some l := by
  obtain ⟨v, -, hstamp, hcurrent⟩ := hl
  refine hcurrent (stamp_injective (hstamp.symm.trans hversion) ?_)
  rw [← hs current hstored, ← hsame, hversion]

/-- After a change, no lease handed out before is stored under its version. -/
theorem Issued.lease_put_ne {s : LeaseStore} {l l' : Lease} {version : String} (hl : s.Issued l)
    (hversion : l.resourceVersion = some version) (extra : List (String × Json)) :
    (s.put l' extra).lease ≠ some l := by
  obtain ⟨v, hle, hstamp, -⟩ := hl
  intro heq
  have hnext : l.resourceVersion = s.stamp (s.version + 1) := by
    rw [← Option.some.inj heq]
    rfl
  have : v = s.version + 1 := stamp_injective (hstamp.symm.trans hversion)
    (hnext.symm.trans hversion)
  omega

end ControllerManager.Cluster.LeaseStore
