import ControllerManager.Manager.Run
import ControllerManager.Proofs.Simulation.Tenure

/-!
# Requests in a world

What a request of an elector does to a world: it is answered at once, or it is pending and answered
later. From this follows what one step of an acquisition, of a release and of a renewal does to the
server, to the requests so far and to the candidates.

## Main definitions

* `Cluster.LeaseCall.Claims` — a write after which an elector holds the lease.
* `Election.Attempt.Proposes` — what an attempt writes has a property.
* `Simulation.World.Hears`, `Simulation.World.Sends` — a request is answered, or is pending.
* `Simulation.World.Seeks` — the steps of an acquisition.
* `Simulation.World.Returns` — the steps of a release.
* `Simulation.World.Renews` — the steps of a renewal.

## Main results

* `Simulation.World.seeks_of_settle`, `Simulation.World.returns_of_settle` — what an elector of a
  manager does is one of these steps.
* `Simulation.World.renewAll_induction` — what the steps of the renewals keep.
-/

namespace ControllerManager

open Cluster Election

/-! ### What an elector writes -/

/-- The creation or the replacement of a lease, of which `identity` is the holder then. -/
inductive Cluster.LeaseCall.Claims (identity : String) : LeaseCall → Prop
  | create {l : Lease} (h : l.holder? = some identity) : Claims identity (.create l)
  | replace {l : Lease} (h : l.holder? = some identity) : Claims identity (.replace l)

theorem Cluster.LeaseCall.Claims.ne_read {identity : String} {call : LeaseCall}
    (h : call.Claims identity) : call ≠ .read := by
  cases h <;> simp

/-- After an accepted write, `identity` is the holder of the stored lease. -/
theorem Cluster.LeaseCall.Claims.holder {identity : String} {call : LeaseCall}
    (h : call.Claims identity) {store : LeaseStore} {l : Lease}
    (haccepted : store.Accepts call l) : l.holder? = some identity := by
  cases h <;> cases haccepted <;> assumption

theorem Election.Elector.Writes.claims {e : Elector} {now : Lease.Instant} {seen : Option Lease}
    {call : LeaseCall} {hold : Hold} (h : e.Writes now seen call hold) :
    call.Claims e.identity := by
  cases h with
  | create => exact .create rfl
  | renew hown => exact .replace ((Elector.holder?_renewedLease now _).trans hown)
  | takeOver => exact .replace rfl

namespace Election.Attempt

/-- Whatever the attempt writes has a property. -/
def Proposes (P : LeaseCall → Prop) (a : Attempt) : Prop :=
  ∀ call hold, a = .writing call hold → P call

theorem proposes_reading (P : LeaseCall → Prop) (now : Lease.Instant) :
    (Attempt.reading now).Proposes P :=
  fun _ _ h => nomatch h

/-- An attempt reads, or makes a request that has the property. -/
theorem Proposes.call {P : LeaseCall → Prop} {a : Attempt} (h : a.Proposes P) :
    a.call = .read ∨ P a.call := by
  cases a with
  | reading now => exact .inl rfl
  | writing call hold => exact .inr (h call hold rfl)

end Election.Attempt

/-- Only a reading that shows the lease as the elector's own is followed by another request of the
release, which clears the lease. -/
theorem Election.Release.cases_of_receive {e : Elector} {now : Lease.Instant}
    {release release' : Release} {answer : LeaseAnswer}
    (h : release.receive e now answer = .inl release') :
    release = .reading ∧ release' = .clearing (.patch (Release.clearance now)) ∧
      ∃ l, answer = .ok l ∧ l.holder? = some e.identity := by
  unfold Release.receive at h
  split at h
  · split at h
    · cases h
    · cases h
    · rename_i l hl
      split_ifs at h with hown
      cases h
      exact ⟨rfl, rfl, l, Elector.eq_ok_of_leaseOf hl, hown⟩
  · split at h <;> cases h

end ControllerManager

namespace ControllerManager.Simulation

open Cluster Election

/-! ### The server -/

/-- The server fails over a request and keeps its lease, or handles it. -/
theorem Server.respond_cases (s : Server) (call : LeaseCall) :
    (∃ fault, (s.respond call).2 = .error fault ∧ (s.respond call).1.store = s.store) ∨
      s.store.handle call = ((s.respond call).1.store, (s.respond call).2) := by
  unfold respond
  dsimp only
  split_ifs
  · exact .inl ⟨_, rfl, rfl⟩
  · exact .inl ⟨_, rfl, rfl⟩
  · split
    · exact .inl ⟨_, rfl, rfl⟩
    · exact .inr rfl

/-- Whatever is written in the acquisition has a property. -/
def AcquirePhase.Proposes (P : LeaseCall → Prop) : AcquirePhase → Prop
  | .attempting a _ => a.Proposes P
  | .pausing _ _ => True

theorem AcquirePhase.Proposes.mono {P Q : LeaseCall → Prop} {phase : AcquirePhase}
    (h : phase.Proposes P) (hPQ : ∀ call, P call → Q call) : phase.Proposes Q := by
  cases phase with
  | attempting a due => exact fun call hold ha => hPQ call (h call hold ha)
  | pausing => trivial

namespace World

variable {w w' : World} {i : Nat} {c : Candidate} {e : Elector}

/-! ### Requests and answers -/

/-- The world in which a request was sent. -/
def logged (w : World) (target : Target) (call : LeaseCall) : World :=
  { w with sent := ⟨w.time, target, call⟩ :: w.sent }

/-- A request of an elector is answered: it cannot be made or cannot leave, or the server answers it
now. -/
inductive Hears (w : World) (e : Elector) (call : LeaseCall) : World → LeaseAnswer → Prop
  | unsent (fault : Fault) (hcause : w.connected = true → e.target call = .error fault) :
      Hears w e call w (.error fault)
  | prompt (target : Target) :
      Hears w e call ((w.logged target call).answer call).1 ((w.logged target call).answer call).2
  | late : Hears w e call (w.answer call).1 (w.answer call).2

/-- A request is pending. -/
inductive Sends (w : World) (call : LeaseCall) : World → Nat → Prop
  | pending (target : Target) {due : Nat} (hdue : w.time < due) :
      Sends w call (w.logged target call) due

/-- A request that is sent is answered, or it is pending. -/
theorem send_cases (w : World) (e : Elector) (call : LeaseCall) :
    (∃ w' answer, w.send e call = (w', .answered answer) ∧ w.Hears e call w' answer) ∨
      ∃ w' due, w.send e call = (w', .pending due) ∧ w.Sends call w' due := by
  unfold send
  cases htarget : e.target call with
  | error fault => exact .inl ⟨_, _, rfl, .unsent fault fun _ => htarget⟩
  | ok target =>
    by_cases hway : w.connected = true
    · by_cases hdelay : w.server.nextDelay = 0
      · refine .inl ⟨_, _, ?_, .prompt target⟩
        simp [hway, hdelay, logged, answer]
      · refine .inr
          ⟨_, _, ?_, .pending target (Nat.lt_add_of_pos_right (Nat.pos_of_ne_zero hdelay))⟩
        simp [hway, hdelay, logged]
    · refine .inl ⟨_, _, ?_, .unsent disconnected fun h => absurd h hway⟩
      simp [hway]

theorem Hears.candidates {call : LeaseCall} {answer : LeaseAnswer} (h : w.Hears e call w' answer) :
    w'.candidates = w.candidates := by
  cases h <;> rfl

theorem Hears.time {call : LeaseCall} {answer : LeaseAnswer} (h : w.Hears e call w' answer) :
    w'.time = w.time := by
  cases h <;> rfl

theorem Hears.leadership {call : LeaseCall} {answer : LeaseAnswer} (h : w.Hears e call w' answer) :
    w'.leadership = w.leadership := by
  cases h <;> rfl

theorem Sends.candidates {call : LeaseCall} {due : Nat} (h : w.Sends call w' due) :
    w'.candidates = w.candidates := by
  cases h
  rfl

theorem Sends.leadership {call : LeaseCall} {due : Nat} (h : w.Sends call w' due) :
    w'.leadership = w.leadership := by
  cases h
  rfl

theorem Sends.time {call : LeaseCall} {due : Nat} (h : w.Sends call w' due) :
    w'.time = w.time := by
  cases h
  rfl

/-- What an answer means for the store: the request failed, or the store handled it. -/
theorem Hears.answer_cases {call : LeaseCall} {answer : LeaseAnswer}
    (h : w.Hears e call w' answer) :
    (∃ fault, answer = .error fault ∧ w'.server.store = w.server.store) ∨
      w.server.store.handle call = (w'.server.store, answer) := by
  cases h with
  | unsent fault => exact .inl ⟨fault, rfl, rfl⟩
  | prompt target | late => exact w.server.respond_cases call

/-- An answer with a lease comes from the store. -/
theorem Hears.handle {call : LeaseCall} {l : Lease} (h : w.Hears e call w' (.ok l)) :
    w.server.store.handle call = (w'.server.store, .ok l) := by
  rcases h.answer_cases with ⟨fault, hfault, -⟩ | hhandle
  · cases hfault
  · exact hhandle

/-- The store handles a request at most. -/
theorem Hears.store_cases {call : LeaseCall} {answer : LeaseAnswer} (h : w.Hears e call w' answer) :
    w'.server.store = w.server.store ∨ w'.server.store = (w.server.store.handle call).1 := by
  rcases h.answer_cases with ⟨fault, -, hstore⟩ | hhandle
  · exact .inl hstore
  · exact .inr (by rw [hhandle])

/-- What an elector writes after it has read the lease of the store has a property. -/
def Admits (w : World) (e : Elector) (P : LeaseCall → Prop) : Prop :=
  ∀ now seen call hold, (∀ l, seen = some l → w.server.store.lease = some l) →
    e.Writes now seen call hold → P call

theorem admits_claims (w : World) (e : Elector) : w.Admits e (·.Claims e.identity) :=
  fun _ _ _ _ _ h => h.claims

/-- An attempt goes on with what it has read from the store. -/
theorem Hears.proposes {P : LeaseCall → Prop} {a a' : Attempt} {answer : LeaseAnswer}
    (h : w.Hears e a.call w' answer) (hadmits : w.Admits e P)
    (hnext : a.receive e answer = .inl a') : a'.Proposes P := by
  obtain ⟨now, seen, call, hold, rfl, hseen, hwrites, rfl⟩ := Attempt.eq_writing_of_receive hnext
  intro call' hold' heq
  cases heq
  refine hadmits now seen call hold (fun l hl => ?_) hwrites
  subst hl
  obtain rfl := Elector.eq_ok_of_leaseOf hseen
  exact LeaseStore.lease_eq_of_stored_eq_ok (congrArg Prod.snd h.handle)

/-! ### Acquisitions -/

/-- The steps of an acquisition without a deadline. -/
inductive Seeks (w : World) (i : Nat) (c : Candidate) : AcquirePhase → World → Progress → Prop
  | retry {wake : Nat} {verdict : Verdict} (hwake : wake ≤ w.time) :
      Seeks w i c (.pausing wake verdict) w
        (.inl (.acquiring i none (.attempting (.reading w.now) none)))
  | send {a : Attempt} {w' : World} {due : Nat} (h : w.Sends a.call w' due) :
      Seeks w i c (.attempting a none) w' (.inl (.acquiring i none (.attempting a (some due))))
  | goOn {a a' : Attempt} {due : Option Nat} {w' : World} {answer : LeaseAnswer}
      (h : w.Hears c.elector a.call w' answer) (hnext : a.receive c.elector answer = .inl a') :
      Seeks w i c (.attempting a due) w' (.inl (.acquiring i none (.attempting a' none)))
  | gain {a : Attempt} {due : Option Nat} {w' : World} {answer : LeaseAnswer} {hold : Hold}
      (h : w.Hears c.elector a.call w' answer)
      (hnext : a.receive c.elector answer = .inr (.held hold)) :
      Seeks w i c (.attempting a due) (w'.acquired i c) (.inr .acquired)
  | pause {a : Attempt} {due : Option Nat} {w' : World} {answer : LeaseAnswer}
      (h : w.Hears c.elector a.call w' answer) (wake : Nat) (verdict : Verdict) :
      Seeks w i c (.attempting a due) w' (.inl (.acquiring i none (.pausing wake verdict)))
  | die {a : Attempt} {due : Option Nat} {w' : World} {answer : LeaseAnswer} {crash : Crash}
      (h : w.Hears c.elector a.call w' answer)
      (hnext : a.receive c.elector answer = .inr (.crashed crash)) :
      Seeks w i c (.attempting a due) w' (.inr (.crashed crash))

theorem seeks_acquireAnswer {a : Attempt} (due : Option Nat) {answer : LeaseAnswer}
    (h : w.Hears c.elector a.call w' answer) :
    w.Seeks i c (.attempting a due) (w'.acquireAnswer i none c a answer).1
      (w'.acquireAnswer i none c a answer).2 := by
  unfold acquireAnswer
  rcases hnext : a.receive c.elector answer with a' | (hold | refusal | error | crash)
  · exact .goOn h hnext
  · exact .gain h hnext
  · exact .pause h _ _
  · exact .pause h _ _
  · exact .die h hnext

/-- What an elector does to acquire the lease is one of these steps. -/
theorem seeks_of_settle {phase : AcquirePhase} {progress : Progress}
    (hc : w.candidate? i = some c)
    (h : Manager.Run.settle w (.acquiring i none phase) = some (w', progress)) :
    w.Seeks i c phase w' progress := by
  unfold Manager.Run.settle at h
  rcases phase with ⟨a, _ | due⟩ | ⟨wake, verdict⟩
  · rcases w.send_cases c.elector a.call with ⟨w₁, answer, hsend, hhears⟩ | ⟨w₁, due, hsend, hsends⟩
    · have hresult : w₁.acquireAnswer i none c a answer = (w', progress) := by
        simpa [Activity.nextTime, sendActivity, hc, hsend] using h
      have hseeks := seeks_acquireAnswer (i := i) (c := c) none hhears
      rwa [hresult] at hseeks
    · obtain ⟨rfl, rfl⟩ : w₁ = w' ∧ Sum.inl (.acquiring i none (.attempting a (some due))) =
          progress := by
        simpa [Activity.nextTime, sendActivity, hc, hsend] using h
      exact .send hsends
  · by_cases hdue : due ≤ w.time
    · have hhears : w.Hears c.elector a.call (w.answer a.call).1 (w.answer a.call).2 := .late
      have hresult : (w.answer a.call).1.acquireAnswer i none c a (w.answer a.call).2 =
          (w', progress) := by
        simp only [Activity.nextTime, Option.toList, List.nil_append, List.min?_singleton,
          Option.any_some, hdue, decide_true, if_true, advance, hc, Option.some.injEq] at h
        rw [← h]
        rcases hanswer : (w.answer a.call).1.acquireAnswer i none c a (w.answer a.call).2 with
          ⟨w₁, activity | outcome⟩
        · rfl
        · rfl
      have hseeks := seeks_acquireAnswer (i := i) (c := c) (some due) hhears
      rwa [hresult] at hseeks
    · simp [Activity.nextTime, sendActivity, hdue] at h
  · by_cases hwake : wake ≤ w.time
    · obtain ⟨rfl, rfl⟩ : w = w' ∧
          Sum.inl (.acquiring i none (.attempting (.reading w.now) none)) = progress := by
        simpa [Activity.nextTime, hwake, advance, hc, isOverdue] using h
      exact .retry hwake
    · simp [Activity.nextTime, sendActivity, hwake] at h

/-- An acquisition that goes on leaves the candidates alone. -/
theorem Seeks.goesOn {phase : AcquirePhase} {next : Activity} {P : LeaseCall → Prop}
    (h : w.Seeks i c phase w' (.inl next)) (hphase : phase.Proposes P)
    (hadmits : w.Admits c.elector P) :
    w'.candidates = w.candidates ∧ ∃ phase', next = .acquiring i none phase' ∧
      phase'.Proposes P := by
  cases h with
  | retry hwake => exact ⟨rfl, _, rfl, Attempt.proposes_reading P w.now⟩
  | send h => exact ⟨h.candidates, _, rfl, hphase⟩
  | goOn h hnext => exact ⟨h.candidates, _, rfl, h.proposes hadmits hnext⟩
  | pause h wake verdict => exact ⟨h.candidates, _, rfl, trivial⟩

/-- An acquisition succeeds by an accepted write. -/
theorem Seeks.gains {phase : AcquirePhase} {P : LeaseCall → Prop}
    (h : w.Seeks i c phase w' (.inr .acquired)) (hphase : phase.Proposes P) :
    ∃ (w₁ : World) (call : LeaseCall) (hold : Hold) (due : Option Nat) (l : Lease),
      w' = w₁.acquired i c ∧ w₁.candidates = w.candidates ∧ w₁.time = w.time ∧
      phase = .attempting (.writing call hold) due ∧ P call ∧
      w.server.store.handle call = (w'.server.store, .ok l) := by
  cases h with
  | @gain a due w₁ answer hold h hnext =>
    obtain ⟨call, l, rfl, rfl⟩ := Attempt.eq_writing_of_held hnext
    exact ⟨w₁, call, hold, due, l, rfl, h.candidates, h.time, rfl, hphase call hold rfl, h.handle⟩

theorem Seeks.time {phase : AcquirePhase} {progress : Progress}
    (h : w.Seeks i c phase w' progress) : w'.time = w.time := by
  cases h with
  | retry => rfl
  | send h => exact h.time
  | goOn h | gain h | pause h | die h => exact h.time

/-! ### Releases -/

/-- The steps of a release. -/
inductive Returns (w : World) (i : Nat) (c : Candidate) :
    Release → Option Nat → World → Progress → Prop
  | send {release : Release} {w' : World} {due : Nat} (h : w.Sends release.call w' due) :
      Returns w i c release none w' (.inl (.releasing i release (some due)))
  | goOn {release release' : Release} {due : Option Nat} {w' : World} {answer : LeaseAnswer}
      (h : w.Hears c.elector release.call w' answer)
      (hnext : release.receive c.elector w.now answer = .inl release') :
      Returns w i c release due w' (.inl (.releasing i release' none))
  | finish {release : Release} {due : Option Nat} {w' : World} {answer : LeaseAnswer}
      {result : Except Error Unit} (h : w.Hears c.elector release.call w' answer)
      (hnext : release.receive c.elector w.now answer = .inr result) :
      Returns w i c release due (w'.dropGuard i) (.inr (.released result))

theorem returns_releaseAnswer {release : Release} (due : Option Nat) {answer : LeaseAnswer}
    (h : w.Hears c.elector release.call w' answer) :
    w.Returns i c release due (w'.releaseAnswer i c release answer).1
      (w'.releaseAnswer i c release answer).2 := by
  have hnow : w'.now = w.now := by cases h <;> rfl
  unfold releaseAnswer
  rw [hnow]
  rcases hnext : release.receive c.elector w.now answer with release' | result
  · exact .goOn h hnext
  · exact .finish h hnext

/-- What an elector does to give the lease back is one of these steps. -/
theorem returns_of_settle {release : Release} {due : Option Nat} {progress : Progress}
    (hc : w.candidate? i = some c)
    (h : Manager.Run.settle w (.releasing i release due) = some (w', progress)) :
    w.Returns i c release due w' progress := by
  unfold Manager.Run.settle at h
  rcases due with _ | due
  · rcases w.send_cases c.elector release.call with
      ⟨w₁, answer, hsend, hhears⟩ | ⟨w₁, due, hsend, hsends⟩
    · have hresult : w₁.releaseAnswer i c release answer = (w', progress) := by
        simpa [Activity.nextTime, sendActivity, hc, hsend] using h
      have hreturns := returns_releaseAnswer (i := i) (c := c) none hhears
      rwa [hresult] at hreturns
    · obtain ⟨rfl, rfl⟩ : w₁ = w' ∧ Sum.inl (.releasing i release (some due)) = progress := by
        simpa [Activity.nextTime, sendActivity, hc, hsend] using h
      exact .send hsends
  · by_cases hdue : due ≤ w.time
    · have hhears : w.Hears c.elector release.call (w.answer release.call).1
          (w.answer release.call).2 := .late
      have hresult : (w.answer release.call).1.releaseAnswer i c release
          (w.answer release.call).2 = (w', progress) := by
        simpa [Activity.nextTime, hdue, advance, hc] using h
      have hreturns := returns_releaseAnswer (i := i) (c := c) (some due) hhears
      rwa [hresult] at hreturns
    · simp [Activity.nextTime, sendActivity, hdue] at h

theorem dropGuard_time (w : World) (i : Nat) : (w.dropGuard i).time = w.time := by
  unfold dropGuard
  split
  · split_ifs <;> rfl
  · rfl

theorem Returns.time {release : Release} {due : Option Nat} {progress : Progress}
    (h : w.Returns i c release due w' progress) : w'.time = w.time := by
  cases h with
  | send h => exact h.time
  | goOn h => exact h.time
  | finish h => exact (dropGuard_time _ i).trans h.time

/-! ### Renewals -/

/-- The steps of the renewal of a candidate. -/
inductive Renews (w : World) (i : Nat) : World → Prop
  | idle : Renews w i w
  | begin {c : Candidate} {g : Guard} {last wake : Nat} (hc : w.candidate? i = some c)
      (hg : c.guard = some g) (hr : g.renewal = .resting last wake) (hwake : wake ≤ w.time) :
      Renews w i (w.setRenewal i c g (.begin c.elector.timing last w.time w.now) none)
  | send {c : Candidate} {g : Guard} {last deadline : Nat} {a : Attempt} {w' : World} {due : Nat}
      (hc : w.candidate? i = some c) (hg : c.guard = some g)
      (hr : g.renewal = .attempting last deadline a) (h : w.Sends a.call w' due) :
      Renews w i (w'.setRenewal i c g g.renewal (some due))
  | hear {c : Candidate} {g : Guard} {last deadline : Nat} {a : Attempt} {w' : World}
      {answer : LeaseAnswer} (hc : w.candidate? i = some c) (hg : c.guard = some g)
      (hr : g.renewal = .attempting last deadline a) (h : w.Hears c.elector a.call w' answer) :
      Renews w i (w'.setRenewal i c g
        (.receive c.elector w.time answer (.attempting last deadline a)) none)
  | giveUp {c : Candidate} {g : Guard} {last deadline : Nat} {a : Attempt}
      (hc : w.candidate? i = some c) (hg : c.guard = some g)
      (hr : g.renewal = .attempting last deadline a) (hlate : deadline ≤ w.time) :
      Renews w i (w.setRenewal i c g (.giveUp c.elector.timing w.time g.renewal) none)

theorem renews_wake (w : World) (i : Nat) : w.Renews i (w.wake i) := by
  unfold wake
  split
  · rename_i c hc
    split
    · rename_i g hg
      split
      · rename_i last wake hr
        split_ifs with hwake
        · exact .begin hc hg hr hwake
        · exact .idle
      · rename_i last deadline a hr
        split
        · split_ifs with hdue hlate
          · exact .hear hc hg hr .late
          · exact .giveUp hc hg hr hlate
          · exact .idle
        · exact .idle
      · exact .idle
    · exact .idle
  · exact .idle

theorem renews_sendRenewal (w : World) (i : Nat) : w.Renews i (w.sendRenewal i) := by
  unfold sendRenewal
  split
  · rename_i c hc
    split
    · rename_i g hg
      split
      · rename_i last deadline a hr hdue
        rcases w.send_cases c.elector a.call with
          ⟨w₁, answer, hsend, hhears⟩ | ⟨w₁, due, hsend, hsends⟩
        · rw [hsend]
          have htime := hhears.time
          simp only [htime]
          exact .hear hc hg hr hhears
        · rw [hsend]
          exact .send hc hg hr hsends
      · exact .idle
    · exact .idle
  · exact .idle

theorem sendRounds_induction {P : World → Prop}
    (hstep : ∀ {w w' : World} {i : Nat}, P w → w.Renews i w' → P w') (h : P w) (rounds : Nat) :
    P (w.sendRounds rounds) := by
  induction rounds generalizing w with
  | zero => exact h
  | succ rounds ih =>
    unfold sendRounds
    split
    · exact h
    · exact ih (List.foldlRecOn (motive := P) _ _ h
        fun w hw j _ => hstep hw (w.renews_sendRenewal j))

/-- What the steps of the renewals keep holds after all renewals that are due. -/
theorem renewAll_induction {P : World → Prop}
    (hstep : ∀ {w w' : World} {i : Nat}, P w → w.Renews i w' → P w') (h : P w) : P w.renewAll :=
  sendRounds_induction hstep
    (List.foldlRecOn (motive := P) _ _ h fun w hw j _ => hstep hw (w.renews_wake j)) 2

theorem setRenewal_time {g : Guard} (renewal : Renewal) (due : Option Nat) :
    (w.setRenewal i c g renewal due).time = w.time := by
  cases renewal <;> rfl

theorem Renews.time (h : w.Renews i w') : w'.time = w.time := by
  cases h with
  | idle => rfl
  | begin | giveUp => exact setRenewal_time _ _
  | send hc hg hr h => exact (setRenewal_time _ _).trans h.time
  | hear hc hg hr h => exact (setRenewal_time _ _).trans h.time

theorem renewAll_time (w : World) : w.renewAll.time = w.time :=
  renewAll_induction (P := fun w' => w'.time = w.time) (fun h hrenews => hrenews.time.trans h) rfl

end World

end ControllerManager.Simulation
