import ControllerManager.Proofs.Simulation.Requests

/-!
# The lease of a single elector

An elector that is alone with its server. What its renewals write leaves the lease its own, and
names the version of a lease that the server has handed out. So once the lease was given back, under
a version of its own, no write that was sent before is accepted any more.

## Main definitions

* `Cluster.LeaseStore.Dated`, `Cluster.LeaseStore.Outdated` — the lease that a replacement names was
  handed out, and is not the stored one any more.
* `Cluster.LeaseStore.OwnedBy`, `Cluster.LeaseStore.Vacant` — who holds the stored lease.
* `Simulation.World.Proposing` — what the renewals of an elector write has a property.
* `Simulation.World.Touches` — what a request does to the lease and to the requests so far.

## Main results

* `Cluster.LeaseStore.Outdated.not_accepts` — an outdated write is refused.
* `Simulation.World.Renews.touches`, `Simulation.World.Renews.proposing` — what renewals do.
* `Simulation.World.renewAll_eq_self` — renewals that are over do nothing.
-/

namespace ControllerManager

open Election

namespace Cluster.LeaseStore

variable {s : LeaseStore} {call call' : LeaseCall} {l seen current : Lease} {identity : String}

/-! ### Replacements of what was handed out -/

/-- A lease carries the version of another one that the store has handed out. -/
structure Follows (s : LeaseStore) (l seen : Lease) : Prop where
  issued : s.Issued seen
  same : l.resourceVersion = seen.resourceVersion
  named : l.resourceVersion.isSome = true

/-- A replacement names the version of a lease that the store has handed out. -/
def Dated (s : LeaseStore) (call : LeaseCall) : Prop :=
  ∀ l, call = .replace l → ∃ seen, s.Follows l seen

/-- A replacement names the version of a lease that the store has handed out, and that is not the
stored one any more. -/
def Outdated (s : LeaseStore) (call : LeaseCall) : Prop :=
  ∀ l, call = .replace l → ∃ seen, s.Follows l seen ∧ s.lease ≠ some seen

theorem dated_read (s : LeaseStore) : s.Dated .read := fun _ h => nomatch h

theorem dated_patch (s : LeaseStore) (p : Lease.SpecPatch) : s.Dated (.patch p) :=
  fun _ h => nomatch h

theorem Follows.handle (h : s.Follows l seen) (call : LeaseCall) :
    (s.handle call).1.Follows l seen :=
  ⟨h.issued.handle call, h.same, h.named⟩

/-- After a change, the lease that was handed out is not the stored one any more. -/
theorem Follows.lease_put_ne (h : s.Follows l seen) (l' : Lease) (extra : List (String × Json)) :
    (s.put l' extra).lease ≠ some seen := by
  obtain ⟨version, hversion⟩ := Option.isSome_iff_exists.1 h.named
  exact h.issued.lease_put_ne (h.same.symm.trans hversion) extra

theorem Dated.handle (h : s.Dated call) (call' : LeaseCall) : (s.handle call').1.Dated call :=
  fun l hl => (h l hl).imp fun _ hfollows => hfollows.handle call'

theorem Outdated.handle (h : s.Outdated call) (call' : LeaseCall) :
    (s.handle call').1.Outdated call := by
  intro l hl
  obtain ⟨seen, hfollows, hne⟩ := h l hl
  refine ⟨seen, hfollows.handle call', ?_⟩
  rcases s.handle_cases call' with ⟨-, heq⟩ | ⟨status, heq⟩ | ⟨l', extra, -, heq⟩
  · rwa [heq]
  · rwa [heq]
  · rw [heq]
    exact hfollows.lease_put_ne l' extra

/-- What an elector writes names the version of the lease that it has read. -/
theorem dated_of_writes (hs : s.Coherent) {e : Elector} {now : Lease.Instant} {read : Option Lease}
    {hold : Hold} (hread : ∀ l, read = some l → s.lease = some l)
    (h : e.Writes now read call hold) : s.Dated call := by
  rintro l rfl
  cases h with
  | renew hown hversion =>
    exact ⟨_, hs.issued (hread _ rfl), rfl, Option.isSome_iff_exists.2 ⟨_, hversion⟩⟩
  | takeOver hforeign hexpired hversion =>
    exact ⟨_, hs.issued (hread _ rfl), hversion.symm, rfl⟩

/-- **An outdated write is refused**, where there is a lease. -/
theorem Outdated.not_accepts (h : s.Outdated call) (hs : s.Coherent)
    (hstored : s.lease = some current) (hclaims : call.Claims identity) : ¬ s.Accepts call l := by
  intro haccepts
  cases haccepts with
  | create habsent => exact nomatch habsent.symm.trans hstored
  | replace hlease hversion =>
    obtain ⟨seen, ⟨hissued, hsame, hnamed⟩, hne⟩ := h l rfl
    obtain ⟨version, hnamed⟩ := Option.isSome_iff_exists.1 hnamed
    exact hne (hissued.lease_eq hs hlease (hsame.symm.trans hnamed) (hsame.symm.trans hversion))
  | patch => cases hclaims

/-! ### The holder of the stored lease -/

/-- There is a lease with that holder. -/
def OwnedBy (s : LeaseStore) (identity : String) : Prop :=
  ∃ l, s.lease = some l ∧ l.holder? = some identity

/-- There is a lease without a holder. -/
def Vacant (s : LeaseStore) : Prop := ∃ l, s.lease = some l ∧ l.holder? = none

/-- A read or a write after which the holder is the same leaves it the holder. -/
theorem OwnedBy.handle (h : s.OwnedBy identity) (hcall : call = .read ∨ call.Claims identity) :
    (s.handle call).1.OwnedBy identity := by
  rcases s.handle_cases call with ⟨-, heq⟩ | ⟨status, heq⟩ | ⟨l, extra, haccepts, heq⟩
  · rwa [heq]
  · rwa [heq]
  · rw [heq]
    rcases hcall with rfl | hclaims
    · cases haccepts
    · have hholder := hclaims.holder haccepts
      exact ⟨_, rfl, hholder⟩

/-- The clearance of a lease removes its holder. -/
theorem holder?_change_clearance (now : Lease.Instant) (l : Lease) :
    (change (Release.clearance now) l).holder? = none := by
  cases h : l.spec <;>
    simp [change, Lease.holder?, h, Lease.SpecPatch.apply, Release.clearance]

/-- The clearance leaves the lease vacant, and all replacements that were sent before outdated. -/
theorem handle_clearance (hstored : s.lease = some l) (now : Lease.Instant) :
    (s.handle (.patch (Release.clearance now))).1.Vacant ∧
      ∀ call, s.Dated call → (s.handle (.patch (Release.clearance now))).1.Outdated call := by
  have hput : s.handle (.patch (Release.clearance now)) =
      (s.put (change (Release.clearance now) l) s.extra,
        (s.put (change (Release.clearance now) l) s.extra).stored) := by
    simp [LeaseStore.handle, hstored]
  refine ⟨?_, fun call hcall l' hl' => ?_⟩
  · rw [hput]
    exact ⟨_, rfl, holder?_change_clearance now l⟩
  · obtain ⟨seen, hfollows⟩ := hcall l' hl'
    refine ⟨seen, hfollows.handle _, ?_⟩
    rw [hput]
    exact hfollows.lease_put_ne _ _

/-- A vacant lease stays vacant where only outdated writes and clearances come. -/
theorem Vacant.handle (h : s.Vacant) (hs : s.Coherent)
    (hcall : call = .read ∨ call.Claims identity ∧ s.Outdated call ∨
      ∃ now, call = .patch (Release.clearance now)) : (s.handle call).1.Vacant := by
  obtain ⟨l, hl, hholder⟩ := id h
  rcases hcall with rfl | ⟨hclaims, houtdated⟩ | ⟨now, rfl⟩
  · exact h
  · rcases s.handle_cases call with ⟨-, heq⟩ | ⟨status, heq⟩ | ⟨l', extra, haccepts, heq⟩
    · rwa [heq]
    · rwa [heq]
    · exact absurd haccepts (houtdated.not_accepts hs hl hclaims)
  · exact (handle_clearance hl now).1

end Cluster.LeaseStore

end ControllerManager

namespace ControllerManager.Election.Renewal

open Cluster

variable {P : LeaseCall → Prop} {r : Renewal} {t : Timing} {e : Elector} {time last deadline : Nat}

/-- Whatever the renewals write has a property. -/
def Proposes (P : LeaseCall → Prop) (r : Renewal) : Prop :=
  ∀ last deadline a, r = .attempting last deadline a → a.Proposes P

theorem proposes_of_isOver (h : r.isOver = true) : r.Proposes P := by
  rintro last deadline a rfl
  cases h

theorem proposes_start (P : LeaseCall → Prop) (t : Timing) (time : Nat) :
    (start t time).Proposes P :=
  fun _ _ _ h => nomatch h

theorem proposes_afterFailure : (afterFailure t last time).Proposes P := by
  unfold afterFailure
  split_ifs
  · exact fun _ _ _ h => nomatch h
  · exact fun _ _ _ h => nomatch h

theorem proposes_begin (now : Lease.Instant) : (Renewal.begin t last time now).Proposes P := by
  unfold Renewal.begin
  dsimp only
  split_ifs
  · exact proposes_afterFailure
  · intro last' deadline' a ha
    cases ha
    exact Attempt.proposes_reading P now

/-- Renewals go on with their attempt. -/
theorem proposes_receive {a : Attempt} {answer : LeaseAnswer}
    (ha : ∀ a', a.receive e answer = .inl a' → a'.Proposes P) :
    (Renewal.receive e time answer (.attempting last deadline a)).Proposes P := by
  simp only [Renewal.receive]
  rcases hnext : a.receive e answer with a' | verdict
  · dsimp only
    split_ifs
    · exact proposes_afterFailure
    · intro last' deadline' a'' ha'
      cases ha'
      exact ha a' hnext
  · cases verdict with
    | held | crashed =>
      intro _ _ _ h
      cases h
    | refused | failed => exact proposes_afterFailure

end ControllerManager.Election.Renewal

namespace ControllerManager.Simulation.World

open Cluster Election

variable {w w' : World} {i : Nat} {c : Candidate} {e : Elector} {P Q : LeaseCall → Prop}
  {call : LeaseCall}

/-! ### What a request does -/

/-- What a request does to the lease and to the requests so far, if it does anything. -/
structure Touches (call : LeaseCall) (w w' : World) : Prop where
  store : w'.server.store = w.server.store ∨ w'.server.store = (w.server.store.handle call).1
  sent : w'.sent = w.sent ∨ ∃ target, w'.sent = ⟨w.time, target, call⟩ :: w.sent

theorem touches_of_eq (call : LeaseCall) (hserver : w'.server = w.server)
    (hsent : w'.sent = w.sent) : w.Touches call w' :=
  ⟨.inl (by rw [hserver]), .inl hsent⟩

/-- What is done beside a request does not count. -/
theorem Touches.congr {w₁ : World} (h : w.Touches call w₁) (hserver : w'.server = w₁.server)
    (hsent : w'.sent = w₁.sent) : w.Touches call w' :=
  ⟨by rw [hserver]; exact h.store, by rw [hsent]; exact h.sent⟩

theorem Touches.mem_sent {q : Sent} (h : w.Touches call w') (hq : q ∈ w'.sent) :
    q ∈ w.sent ∨ q.call = call := by
  rcases h.sent with heq | ⟨target, heq⟩
  · exact .inl (heq ▸ hq)
  · rw [heq] at hq
    rcases List.mem_cons.1 hq with rfl | hq
    · exact .inr rfl
    · exact .inl hq

theorem Touches.coherent (h : w.Touches call w') (hw : w.server.store.Coherent) :
    w'.server.store.Coherent := by
  rcases h.store with heq | heq
  · rwa [heq]
  · rw [heq]
    exact hw.handle call

theorem Touches.dated {call' : LeaseCall} (h : w.Touches call w')
    (hdated : w.server.store.Dated call') : w'.server.store.Dated call' := by
  rcases h.store with heq | heq
  · rwa [heq]
  · rw [heq]
    exact hdated.handle call

theorem Touches.ownedBy {identity : String} (h : w.Touches call w')
    (hcall : call = .read ∨ call.Claims identity) (howned : w.server.store.OwnedBy identity) :
    w'.server.store.OwnedBy identity := by
  rcases h.store with heq | heq
  · rwa [heq]
  · rw [heq]
    exact howned.handle hcall

theorem Hears.touches {answer : LeaseAnswer} (h : w.Hears e call w' answer) :
    w.Touches call w' := by
  refine ⟨h.store_cases, ?_⟩
  cases h with
  | unsent | late => exact .inl rfl
  | prompt target => exact .inr ⟨target, rfl⟩

theorem Sends.touches {due : Nat} (h : w.Sends call w' due) : w.Touches call w' := by
  cases h with
  | pending target => exact ⟨.inl rfl, .inr ⟨target, rfl⟩⟩

theorem setRenewal_server (w : World) (i : Nat) (c : Candidate) (g : Guard) (renewal : Renewal)
    (due : Option Nat) : (w.setRenewal i c g renewal due).server = w.server := by
  cases renewal <;> rfl

theorem setRenewal_sent (w : World) (i : Nat) (c : Candidate) (g : Guard) (renewal : Renewal)
    (due : Option Nat) : (w.setRenewal i c g renewal due).sent = w.sent := by
  cases renewal <;> rfl

theorem dropGuard_server (w : World) (i : Nat) : (w.dropGuard i).server = w.server := by
  unfold dropGuard
  split
  · split_ifs <;> rfl
  · rfl

theorem dropGuard_sent (w : World) (i : Nat) : (w.dropGuard i).sent = w.sent := by
  unfold dropGuard
  split
  · split_ifs <;> rfl
  · rfl

/-- A candidate that begins to give its lease back has a guard, whose renewals end. -/
theorem beginRelease_cases {activity : Activity} (h : w.beginRelease i = some (w', activity)) :
    ∃ c g, w.candidate? i = some c ∧ c.guard = some g ∧ activity = .releasing i .reading none ∧
      w' = w.setCandidate i
        { c with guard := some { g with renewal := .stopped, due := none } } := by
  obtain ⟨c, hc, g, hg, heq⟩ : ∃ c, w.candidate? i = some c ∧ ∃ g, c.guard = some g ∧
      (w.setCandidate i { c with guard := some { g with renewal := .stopped, due := none } },
        Activity.releasing i .reading none) = (w', activity) := by
    simpa [World.beginRelease, Option.bind_eq_some_iff] using h
  obtain ⟨rfl, rfl⟩ := Prod.mk.inj heq
  exact ⟨c, g, hc, hg, rfl, rfl⟩

/-- An acquisition reads the lease, or makes the request that it is about. -/
theorem Seeks.touches {phase : AcquirePhase} {progress : Progress}
    (h : w.Seeks i c phase w' progress) (hphase : phase.Proposes P) :
    ∃ call, (call = .read ∨ P call) ∧ w.Touches call w' := by
  cases h with
  | retry => exact ⟨.read, .inl rfl, touches_of_eq .read rfl rfl⟩
  | @send a w' due h => exact ⟨a.call, Attempt.Proposes.call hphase, h.touches⟩
  | @goOn a a' due w' answer h => exact ⟨a.call, Attempt.Proposes.call hphase, h.touches⟩
  | @gain a due w' answer hold h =>
    exact ⟨a.call, Attempt.Proposes.call hphase, h.touches.congr rfl rfl⟩
  | @pause a due w' answer h => exact ⟨a.call, Attempt.Proposes.call hphase, h.touches⟩
  | @die a due w' answer crash h => exact ⟨a.call, Attempt.Proposes.call hphase, h.touches⟩

/-- A release that goes on leaves the candidates alone. It goes on to clear the lease only where the
lease is the elector's. -/
theorem Returns.goesOn {release : Release} {due : Option Nat} {next : Activity}
    (h : w.Returns i c release due w' (.inl next)) :
    w'.candidates = w.candidates ∧ ∃ release' due', next = .releasing i release' due' ∧
      (release' = release ∨ release = .reading ∧
        release' = .clearing (.patch (Release.clearance w.now)) ∧
        w.server.store.OwnedBy c.elector.identity) := by
  cases h with
  | send h => exact ⟨h.candidates, _, _, rfl, .inl rfl⟩
  | goOn h hnext =>
    obtain ⟨rfl, rfl, l, rfl, hown⟩ := Release.cases_of_receive hnext
    have hstored := LeaseStore.lease_eq_of_stored_eq_ok (congrArg Prod.snd h.handle)
    exact ⟨h.candidates, _, _, rfl, .inr ⟨rfl, rfl, l, hstored, hown⟩⟩

theorem Returns.touches {release : Release} {due : Option Nat} {progress : Progress}
    (h : w.Returns i c release due w' progress) : w.Touches release.call w' := by
  cases h with
  | send h => exact h.touches
  | goOn h => exact h.touches
  | finish h => exact h.touches.congr (dropGuard_server _ i) (dropGuard_sent _ i)

/-! ### What the renewals write -/

/-- All candidates are the elector, and whatever its renewals write has a property. -/
def Proposing (e : Elector) (P : LeaseCall → Prop) (w : World) : Prop :=
  ∀ c ∈ w.candidates, c.elector = e ∧ ∀ g, c.guard = some g → g.renewal.Proposes P

theorem Proposing.mono (h : w.Proposing e P) (hPQ : ∀ call, P call → Q call) :
    w.Proposing e Q := by
  intro c hc
  obtain ⟨helector, hguard⟩ := h c hc
  exact ⟨helector, fun g hg last deadline a ha call hold hcall =>
    hPQ call (hguard g hg last deadline a ha call hold hcall)⟩

theorem Proposing.set (h : w.Proposing e P) (i : Nat) (c' : Candidate) (helector : c'.elector = e)
    (hguard : ∀ g, c'.guard = some g → g.renewal.Proposes P)
    (hcandidates : w'.candidates = w.candidates.set i c') : w'.Proposing e P := by
  intro d hd
  rw [hcandidates] at hd
  rcases List.mem_or_eq_of_mem_set hd with hd | rfl
  · exact h d hd
  · exact ⟨helector, hguard⟩

theorem Proposing.setRenewal (h : w.Proposing e P) (hc : w.candidate? i = some c) {g : Guard}
    {r : Renewal} (hr : r.Proposes P) (due : Option Nat)
    (hcandidates : w'.candidates = w.candidates) : (w'.setRenewal i c g r due).Proposing e P := by
  refine h.set i (c.renewed g r due) ?_ ?_ ?_
  · cases r <;> exact (h c (List.mem_of_getElem? hc)).1
  · intro g' hg'
    cases r <;> cases hg' <;> exact hr
  · rw [setRenewal_candidates, setCandidate, hcandidates]

theorem Proposing.congr (h : w.Proposing e P) (hcandidates : w'.candidates = w.candidates) :
    w'.Proposing e P := by
  unfold Proposing
  rw [hcandidates]
  exact h

/-- A guard that is given up writes nothing any more. -/
theorem Proposing.dropGuard (h : w.Proposing e P) (i : Nat) : (w.dropGuard i).Proposing e P := by
  unfold World.dropGuard
  split
  · rename_i c hc
    split_ifs
    · exact h.set i { c with isLeader := false, guard := none } (h c (List.mem_of_getElem? hc)).1
        (fun _ hg => nomatch hg) rfl
    · exact h
  · exact h

theorem Seeks.proposing {phase : AcquirePhase} {progress : Progress}
    (hseeks : w.Seeks i c phase w' progress) (h : w.Proposing e P) (hc : w.candidate? i = some c) :
    w'.Proposing e P := by
  cases hseeks with
  | retry => exact h
  | send h' => exact h.congr h'.candidates
  | goOn h' | pause h' | die h' => exact h.congr h'.candidates
  | @gain a due w₁ answer hold h' hnext =>
    refine (h.congr h'.candidates).set i
      { c with
        isLeader := c.guard.isNone
        guard := some ⟨.start c.elector.timing w₁.time, none, false⟩ }
      (h c (List.mem_of_getElem? hc)).1 (fun g hg => ?_) rfl
    cases hg
    exact Renewal.proposes_start P _ _

theorem Returns.proposing {release : Release} {due : Option Nat} {progress : Progress}
    (hreturns : w.Returns i c release due w' progress) (h : w.Proposing e P) :
    w'.Proposing e P := by
  cases hreturns with
  | send h' => exact h.congr h'.candidates
  | goOn h' => exact h.congr h'.candidates
  | finish h' => exact Proposing.dropGuard (h.congr h'.candidates) i

/-- A candidate that begins to give its lease back writes nothing any more. -/
theorem Proposing.beginRelease (h : w.Proposing e P) {activity : Activity}
    (hbegin : w.beginRelease i = some (w', activity)) : w'.Proposing e P := by
  obtain ⟨c, g, hc, hg, -, rfl⟩ := beginRelease_cases hbegin
  refine h.set i { c with guard := some { g with renewal := .stopped, due := none } }
    (h c (List.mem_of_getElem? hc)).1 (fun g' hg' => ?_) rfl
  cases hg'
  exact Renewal.proposes_of_isOver rfl

/-- Renewals go on to write what follows from the lease of the store. -/
theorem Renews.proposing (hrenews : w.Renews i w') (h : w.Proposing e P)
    (hadmits : w.Admits e P) : w'.Proposing e P := by
  have hown : ∀ {c}, w.candidate? i = some c → c.elector = e := fun hc =>
    (h _ (List.mem_of_getElem? hc)).1
  cases hrenews with
  | idle => exact h
  | begin hc hg hr hwake => exact h.setRenewal hc (Renewal.proposes_begin w.now) none rfl
  | send hc hg hr hsends =>
    exact h.setRenewal hc ((h _ (List.mem_of_getElem? hc)).2 _ hg) _ hsends.candidates
  | hear hc hg hr hhears =>
    obtain rfl := hown hc
    exact h.setRenewal hc (Renewal.proposes_receive fun a' ha' => hhears.proposes hadmits ha') none
      hhears.candidates
  | @giveUp c g last deadline a hc hg hr hlate =>
    refine h.setRenewal hc ?_ none rfl
    rw [hr]
    exact Renewal.proposes_afterFailure

/-- Renewals read the lease, or make the requests that they are about. -/
theorem Renews.touches (hrenews : w.Renews i w') (h : w.Proposing e P) :
    ∃ call, (call = .read ∨ P call) ∧ w.Touches call w' := by
  have hcall : ∀ {c g last deadline a}, w.candidate? i = some c → c.guard = some g →
      g.renewal = .attempting last deadline a → a.call = .read ∨ P a.call :=
    fun hc hg hr => ((h _ (List.mem_of_getElem? hc)).2 _ hg _ _ _ hr).call
  cases hrenews with
  | idle => exact ⟨.read, .inl rfl, touches_of_eq .read rfl rfl⟩
  | begin | giveUp =>
    exact ⟨.read, .inl rfl,
      touches_of_eq .read (setRenewal_server _ _ _ _ _ _) (setRenewal_sent _ _ _ _ _ _)⟩
  | send hc hg hr hsends =>
    exact ⟨_, hcall hc hg hr,
      hsends.touches.congr (setRenewal_server _ _ _ _ _ _) (setRenewal_sent _ _ _ _ _ _)⟩
  | hear hc hg hr hhears =>
    exact ⟨_, hcall hc hg hr,
      hhears.touches.congr (setRenewal_server _ _ _ _ _ _) (setRenewal_sent _ _ _ _ _ _)⟩

theorem renewAll_length (w : World) : w.renewAll.candidates.length = w.candidates.length := by
  refine renewAll_induction (P := fun w' => w'.candidates.length = w.candidates.length)
    (fun {w₁ w₂ i} hw hrenews => ?_) rfl
  have hset : ∀ {w₃ : World} {c g r due}, w₃.candidates = w₁.candidates →
      (w₃.setRenewal i c g r due).candidates.length = w.candidates.length := by
    intro w₃ c g r due hcandidates
    rw [setRenewal_candidates, setCandidate, hcandidates, List.length_set]
    exact hw
  cases hrenews with
  | idle => exact hw
  | begin | giveUp => exact hset rfl
  | send hc hg hr h => exact hset h.candidates
  | hear hc hg hr h => exact hset h.candidates

theorem Seeks.length {phase : AcquirePhase} {progress : Progress}
    (h : w.Seeks i c phase w' progress) : w'.candidates.length = w.candidates.length := by
  cases h with
  | retry => rfl
  | send h => rw [h.candidates]
  | goOn h | pause h | die h => rw [h.candidates]
  | gain h => exact List.length_set.trans (congrArg List.length h.candidates)

theorem dropGuard_length (w : World) (i : Nat) :
    (w.dropGuard i).candidates.length = w.candidates.length := by
  unfold dropGuard
  split
  · split_ifs
    · exact List.length_set
    · rfl
  · rfl

theorem Returns.length {release : Release} {due : Option Nat} {progress : Progress}
    (h : w.Returns i c release due w' progress) :
    w'.candidates.length = w.candidates.length := by
  cases h with
  | send h => rw [h.candidates]
  | goOn h => rw [h.candidates]
  | finish h => rw [dropGuard_length, h.candidates]

/-! ### Renewals of the own lease -/

/-- What the renewals of an elector leave: whatever they write claims the lease, whatever was sent
is read or claimed, and the lease stays the elector's. -/
structure Claiming (e : Elector) (w w' : World) : Prop where
  renewals : w'.Proposing e (·.Claims e.identity)
  sent : ∀ q ∈ w'.sent, q ∈ w.sent ∨ q.call = .read ∨ q.call.Claims e.identity
  owned : w.server.store.OwnedBy e.identity → w'.server.store.OwnedBy e.identity

theorem claiming_renewAll (h : w.Proposing e (·.Claims e.identity)) : w.Claiming e w.renewAll := by
  refine renewAll_induction (P := w.Claiming e) (fun {w₁ w₂ i} hw hrenews => ?_)
    ⟨h, fun _ => .inl, id⟩
  obtain ⟨call, hcall, htouches⟩ := hrenews.touches hw.renewals
  refine ⟨hrenews.proposing hw.renewals (w₁.admits_claims e), fun q hq => ?_,
    fun howned => htouches.ownedBy hcall (hw.owned howned)⟩
  rcases htouches.mem_sent hq with hq | rfl
  · exact hw.sent q hq
  · exact .inr hcall

/-- The stored lease carries its version, and every replacement that was sent, or will be sent by
the renewals, names a version that the store has handed out. -/
structure Dating (e : Elector) (w : World) : Prop where
  coherent : w.server.store.Coherent
  renewals : w.Proposing e w.server.store.Dated
  sent : ∀ q ∈ w.sent, w.server.store.Dated q.call

theorem admits_dated (h : w.server.store.Coherent) (e : Elector) :
    w.Admits e w.server.store.Dated :=
  fun _ _ _ _ hread hwrites => LeaseStore.dated_of_writes h hread hwrites

/-- A request keeps the dates. -/
theorem Dating.touches (h : w.Dating e) (htouches : w.Touches call w')
    (hcall : w.server.store.Dated call) (hrenewals : w'.Proposing e w.server.store.Dated) :
    w'.Dating e := by
  refine ⟨htouches.coherent h.coherent, hrenewals.mono fun _ => htouches.dated, fun q hq => ?_⟩
  rcases htouches.mem_sent hq with hq | rfl
  · exact htouches.dated (h.sent q hq)
  · exact htouches.dated hcall

theorem Renews.dating (hrenews : w.Renews i w') (h : w.Dating e) : w'.Dating e := by
  obtain ⟨call, hcall, htouches⟩ := hrenews.touches h.renewals
  refine h.touches htouches ?_ (hrenews.proposing h.renewals (admits_dated h.coherent e))
  rcases hcall with rfl | hdated
  · exact LeaseStore.dated_read _
  · exact hdated

/-- The renewals keep the dates, and what is dated stays so. -/
theorem Dating.renewAll (h : w.Dating e) : w.renewAll.Dating e ∧
    ∀ call, w.server.store.Dated call → w.renewAll.server.store.Dated call := by
  refine renewAll_induction (P := fun w' => w'.Dating e ∧
    ∀ call, w.server.store.Dated call → w'.server.store.Dated call)
    (fun {w₁ w₂ i} hw hrenews => ⟨hrenews.dating hw.1, fun call hdated => ?_⟩)
    ⟨h, fun _ => id⟩
  obtain ⟨call', -, htouches⟩ := hrenews.touches hw.1.renewals
  exact htouches.dated (hw.2 call hdated)

/-! ### Renewals that are over -/

/-- **Renewals that are over do nothing.** -/
theorem renewAll_eq_self (h : ∀ i c g, w.candidate? i = some c → c.guard = some g →
    g.renewal.isOver = true) : w.renewAll = w := by
  refine renewAll_induction (P := (· = w)) (fun {w₁ w₂ i} hw hrenews => ?_) rfl
  subst hw
  have hlive : ∀ {c g}, w₁.candidate? i = some c → c.guard = some g →
      g.renewal.isOver ≠ false := fun hc hg => by simp [h i _ _ hc hg]
  cases hrenews with
  | idle => rfl
  | begin hc hg hr => exact absurd (by rw [hr]; rfl) (hlive hc hg)
  | send hc hg hr => exact absurd (by rw [hr]; rfl) (hlive hc hg)
  | hear hc hg hr => exact absurd (by rw [hr]; rfl) (hlive hc hg)
  | giveUp hc hg hr => exact absurd (by rw [hr]; rfl) (hlive hc hg)

/-! ### The lease after its clearance -/

/-- The lease was given back for good: it has no holder, and no write that was sent is up to date.
-/
structure Freed (e : Elector) (w : World) : Prop where
  vacant : w.server.store.Vacant
  outdated : ∀ q ∈ w.sent, q.call.Claims e.identity → w.server.store.Outdated q.call

/-- What the elector asks for while it claims nothing new: it reads or clears the lease, or a write
that it has sent before reaches the server. -/
def Asks (e : Elector) (w : World) (call : LeaseCall) : Prop :=
  call = .read ∨ (call.Claims e.identity ∧ ∃ q ∈ w.sent, q.call = call) ∨
    ∃ now, call = .patch (Release.clearance now)

/-- No write that was sent is accepted any more. -/
theorem Freed.not_accepts (h : w.Freed e) (hw : w.server.store.Coherent) {q : Sent}
    (hq : q ∈ w.sent) (hclaims : q.call.Claims e.identity) (l : Lease) :
    ¬ w.server.store.Accepts q.call l := by
  obtain ⟨current, hcurrent, -⟩ := h.vacant
  exact (h.outdated q hq hclaims).not_accepts hw hcurrent hclaims

/-- A lease that was given back stays so. -/
theorem Freed.touches (h : w.Freed e) (hw : w.server.store.Coherent) (htouches : w.Touches call w')
    (hcall : w.Asks e call) : w'.Freed e := by
  have houtdated : call.Claims e.identity → w.server.store.Outdated call := by
    intro hclaims
    rcases hcall with rfl | ⟨-, q, hq, rfl⟩ | ⟨now, rfl⟩
    · cases hclaims
    · exact h.outdated q hq hclaims
    · cases hclaims
  refine ⟨?_, fun q hq hclaims => ?_⟩
  · rcases htouches.store with heq | heq
    · rw [heq]
      exact h.vacant
    · rw [heq]
      exact h.vacant.handle hw
        (hcall.imp_right fun hcall => hcall.imp_left fun hc => ⟨hc.1, houtdated hc.1⟩)
  · have hbefore : w.server.store.Outdated q.call := by
      rcases htouches.mem_sent hq with hq | heq
      · exact h.outdated q hq hclaims
      · exact heq ▸ houtdated (heq ▸ hclaims)
    rcases htouches.store with heq | heq
    · rwa [heq]
    · rw [heq]
      exact hbefore.handle call

/-- **A lease that is cleared is given back for good.** -/
theorem Dating.freed (h : w.Dating e) {l : Lease} (hstored : w.server.store.lease = some l)
    {now : Lease.Instant}
    (hstore : w'.server.store = (w.server.store.handle (.patch (Release.clearance now))).1)
    (hsent : ∀ q ∈ w'.sent, q.call.Claims e.identity → ∃ q' ∈ w.sent, q'.call = q.call) :
    w'.Freed e := by
  obtain ⟨hvacant, houtdated⟩ := LeaseStore.handle_clearance hstored now
  refine ⟨hstore ▸ hvacant, fun q hq hclaims => ?_⟩
  obtain ⟨q', hq', heq⟩ := hsent q hq hclaims
  rw [hstore, ← heq]
  exact houtdated q'.call (h.sent q' hq')

/-- The claims that were sent after a request of the elector have been sent before. -/
theorem Touches.claims_sent (htouches : w.Touches call w') (hcall : w.Asks e call) {q : Sent}
    (hq : q ∈ w'.sent) (hclaims : q.call.Claims e.identity) : ∃ q' ∈ w.sent, q'.call = q.call := by
  rcases htouches.mem_sent hq with hq | heq
  · exact ⟨q, hq, rfl⟩
  · rw [heq] at hclaims ⊢
    rcases hcall with rfl | ⟨-, hsent⟩ | ⟨now, rfl⟩
    · cases hclaims
    · exact hsent
    · cases hclaims

/-- The lease is the elector's, or it was given back for good. -/
theorem Dating.owned_or_freed (hw : w.Dating e)
    (h : w.server.store.OwnedBy e.identity ∨ w.Freed e) (htouches : w.Touches call w')
    (hcall : w.Asks e call) : w'.server.store.OwnedBy e.identity ∨ w'.Freed e := by
  rcases h with howned | hfreed
  · rcases hcall with hread | ⟨hclaims, -⟩ | ⟨now, rfl⟩
    · exact .inl (htouches.ownedBy (.inl hread) howned)
    · exact .inl (htouches.ownedBy (.inr hclaims) howned)
    · rcases htouches.store with heq | heq
      · exact .inl (heq ▸ howned)
      · obtain ⟨l, hstored, -⟩ := howned
        exact .inr (hw.freed hstored heq
          fun q hq => htouches.claims_sent (.inr (.inr ⟨now, rfl⟩)) hq)
  · exact .inr (hfreed.touches hw.coherent htouches hcall)

/-! ### A server that answers normally -/

/-- The requests of the elector reach the server, and the server answers them from its store,
however late. -/
structure Answers (e : Elector) (w : World) : Prop where
  connected : w.connected = true
  makes : ∀ call, ∃ target, e.target call = .ok target
  reachable : w.server.broken = false
  available : w.server.unavailable = false
  planned : ∀ p ∈ w.server.plan, p.status = none

theorem respond_of_answers (h : w.Answers e) (call : LeaseCall) :
    w.server.store.handle call = ((w.server.respond call).1.store, (w.server.respond call).2) := by
  have hplanned : w.server.plan.head?.bind Planned.status = none := by
    cases hplan : w.server.plan with
    | nil => rfl
    | cons p plan => exact h.planned p (hplan ▸ List.mem_cons_self)
  simp [Server.respond, h.reachable, h.available, hplanned]

/-- A request that is answered normally is handled by the store. -/
theorem Answers.handle (h : w.Answers e) {answer : LeaseAnswer}
    (hhears : w.Hears e call w' answer) :
    w.server.store.handle call = (w'.server.store, answer) := by
  cases hhears with
  | unsent fault hcause =>
    obtain ⟨target, htarget⟩ := h.makes call
    exact nomatch htarget.symm.trans (hcause h.connected)
  | prompt | late => exact respond_of_answers h call

end ControllerManager.Simulation.World
