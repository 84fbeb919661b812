import ControllerManager.Proofs.Manager.Outcome
import ControllerManager.Proofs.Simulation.Ownership

/-!
# Dealings with the lease

What a manager does with its lease. It seeks the lease, keeps it by renewals, and gives it back
after everything has stopped and nothing has failed. The lease is given back by a request that no
other part of the run makes.

## Main definitions

* `Manager.Run.Deals` — what one thing that happens to a run means for the lease.
* `Manager.Run.Bound` — what the elector of a run is bound to, phase by phase.

## Main results

* `Manager.Run.Happens.deals` — whatever happens is one of these things.
* `Manager.Run.Course.bound` — the elector is bound in every course of a run.
* `Manager.Run.Course.drained` — a lease is given back after all tasks have stopped.
* `Manager.Run.Course.cleared` — how a clearance of the lease came to be sent.
-/

namespace ControllerManager.Manager

open Cluster Election Simulation

/-- A phase in which the lease is given back, or nothing has failed in the end. -/
def Phase.isClosing : Phase → Bool
  | .releasing _ | .over none => true
  | _ => false

theorem Phase.isUnled_of_hasLed {p : Phase} (h : p.hasLed = true) : p.isUnled = false := by
  cases p with
  | drainingServers outcome led deadline =>
    cases led with
    | false => cases h
    | true => rfl
  | electing => cases h
  | _ => rfl

namespace Run

variable {m : Manager} {s : Surroundings} {r r' b : Run} {F : LeaseStore → Prop}

/-! ### The dealings -/

/-- What one thing that happens to a run means for the lease, told by the phase and the world that
come of it. The server may change to one whose store is admitted. -/
inductive Deals (F : LeaseStore → Prop) (r : Run) (phase : Phase) (world : World) : Prop
  /-- The elector does nothing. -/
  | idle (hworld : world = r.world) (hled : phase.hasLed = true → r.phase.hasLed = true)
      (hactivity : ∀ activity, phase = .electing activity ∨ phase = .releasing activity →
        phase = r.phase)
      (hclosing : r.phase.isClosing = true → phase = r.phase)
      (hover : phase = .over none → phase = r.phase ∨ r.phase.isUnled = true ∨
        r.phase.hasLed = true ∧ r.world.beginRelease 0 = none)
  | serve (server : Server) (hserver : F server.store) (hphase : phase = r.phase)
      (hworld : world = { r.world with server := server })
  /-- The clock goes on, and the renewals do what is due. -/
  | wait (server : Server) (time : Nat) (hserver : F server.store) (hphase : phase = r.phase)
      (hrunning : ∀ outcome, phase ≠ .over outcome)
      (hworld : world = World.renewAll { r.world with time := time, server := server })
  | seek {activity : Activity} {progress : Progress} (hphase : r.phase = .electing activity)
      (hsettle : settle r.world activity = some (world, progress))
      (hnext : (∃ next, progress = .inl next ∧ phase = .electing next) ∨
        progress = .inr .acquired ∧ phase = .leading ∨ phase = .crashed)
  /-- The lease is dropped, as something has failed. -/
  | drop {error : Error} {deadline : Nat}
      (hphase : r.phase = .drainingServers (some error) true deadline)
      (hworld : world = r.world.dropGuard 0) (hnext : phase = .over (some error))
  /-- The manager begins to give the lease back. -/
  | begin {activity : Activity} {deadline : Nat}
      (hphase : r.phase = .drainingServers none true deadline)
      (hbegin : r.world.beginRelease 0 = some (world, activity))
      (hnext : phase = .releasing activity)
  | handBack {activity : Activity} {progress : Progress} (hphase : r.phase = .releasing activity)
      (hsettle : settle r.world activity = some (world, progress))
      (hnext : (∃ next, progress = .inl next ∧ phase = .releasing next) ∨
        (∃ outcome, progress = .inr outcome) ∧ phase = .over none)

/-- Where the elector does nothing in a phase that stays. -/
theorem deals_stay (F : LeaseStore → Prop) (r : Run) : r.Deals F r.phase r.world :=
  .idle rfl id (fun _ _ => rfl) (fun _ => rfl) fun _ => .inl rfl

/-- Where the elector does nothing, and a phase follows in which it does nothing either. -/
theorem deals_pass {phase : Phase} (hled : phase.hasLed = true → r.phase.hasLed = true)
    (hactivity : ∀ activity, phase ≠ .electing activity ∧ phase ≠ .releasing activity)
    (hclosing : r.phase.isClosing = false) (hover : phase ≠ .over none) :
    r.Deals F phase r.world := by
  refine .idle rfl hled (fun activity h => ?_) (fun h => ?_) fun h => absurd h hover
  · rcases h with h | h
    · exact absurd h (hactivity activity).1
    · exact absurd h (hactivity activity).2
  · rw [hclosing] at h
    cases h

theorem deals_finish {outcome : Option Error} {led : Bool} {deadline : Nat}
    (hphase : r.phase = .drainingServers outcome led deadline) (hworld : b.world = r.world) :
    r.Deals F (b.finish outcome led).phase (b.finish outcome led).world := by
  have hclosing : ∀ {phase : Phase}, r.phase.isClosing = true → phase = r.phase := fun h => by
    rw [hphase] at h
    cases h
  unfold finish
  cases led with
  | false =>
    exact .idle hworld nofun (fun _ h => by rcases h with h | h <;> cases h) hclosing
      fun _ => .inr (.inl (by rw [hphase]; rfl))
  | true =>
    cases outcome with
    | none =>
      rw [hworld]
      rcases hbegin : r.world.beginRelease 0 with _ | ⟨world, activity⟩
      · exact .idle hworld nofun (fun _ h => by rcases h with h | h <;> cases h) hclosing
          fun _ => .inr (.inr ⟨by rw [hphase]; rfl, hbegin⟩)
      · exact .begin hphase hbegin rfl
    | some error => exact .drop hphase (congrArg (World.dropGuard · 0) hworld) rfl

/-- A decision of the manager is one of the dealings. -/
theorem Decides.deals (h : r.Decides r') : r.Deals F r'.phase r'.world := by
  cases h with
  | abandon hphase | failEarly hphase =>
    exact deals_pass nofun (fun _ => ⟨nofun, nofun⟩) (by rw [hphase]; rfl) nofun
  | elect hphase hsignal hexit helect =>
    obtain ⟨world, progress, hsettle, ⟨next, log, rfl, rfl, -⟩ | ⟨rfl, rfl⟩ | ⟨-, rfl⟩⟩ :=
      elect_cases helect
    · exact .seek hphase hsettle (.inl ⟨next, rfl, rfl⟩)
    · exact .seek hphase hsettle (.inr (.inl ⟨rfl, rfl⟩))
    · exact .seek hphase hsettle (.inr (.inr rfl))
  | stop hphase | lose hphase | fail hphase | drained hphase | abort hphase =>
    exact deals_pass (fun _ => by rw [hphase]; rfl) (fun _ => ⟨nofun, nofun⟩) (by rw [hphase]; rfl)
      nofun
  | @note t ending hphase hunnoted =>
    rcases r.noteEnding_cases t ending with ⟨error, -, heq⟩ | ⟨-, heq⟩
    · rw [heq]
      exact deals_pass (fun _ => by rw [hphase]; rfl) (fun _ => ⟨nofun, nofun⟩)
        (by rw [hphase]; rfl) nofun
    · rw [heq]
      exact deals_stay F r
  | finish hphase hover => exact deals_finish hphase rfl
  | abortServers hphase hlate => exact deals_finish hphase rfl
  | handBack hphase hback =>
    obtain ⟨world, progress, hsettle, ⟨next, rfl, rfl⟩ | ⟨hprogress, log, rfl, -⟩⟩ :=
      handBack_cases hback
    · exact .handBack hphase hsettle (.inl ⟨next, rfl, rfl⟩)
    · exact .handBack hphase hsettle (.inr ⟨hprogress, rfl⟩)

/-- A tick is one of the dealings, if what comes from outside leaves a store that is admitted. -/
theorem Advances.deals (h : r.Advances r') (hrunning : r.isOver = false)
    (harrive : ∀ time, ∃ signal server log, F server.store ∧
      r.arrive time =
        { r with
          time := time
          turn := .opening
          signal := signal
          agenda := r.agenda.filter (time < ·.1)
          world := World.renewAll { r.world with time := time, server := server }
          log := log }) : r.Deals F r'.phase r'.world := by
  cases h with
  | decide hturn hdecide => exact (decides_of_decide? hdecide).deals
  | yield | rest => exact deals_stay F r
  | move hturn hmove =>
    obtain ⟨controllers, servers, log, rfl, -⟩ := move?_cases hmove
    exact deals_stay F r
  | @wait time =>
    obtain ⟨signal, server, log, hserver, heq⟩ := harrive (max time r.time)
    rw [heq]
    refine .wait server _ hserver rfl (fun outcome hphase => ?_) rfl
    rw [isOver, show r.phase = .over outcome from hphase] at hrunning
    cases hrunning

theorem isOver_of_tick {limit : Nat} (h : r.tick limit = some r') : r.isOver = false := by
  unfold tick at h
  split_ifs at h with hover
  exact eq_false_of_ne_true hover

/-- **Whatever happens to a run is one of the dealings.** -/
theorem Happens.deals (h : r.Happens r') : r.Deals (fun _ => True) r'.phase r'.world := by
  cases h with
  | serve server => exact .serve server trivial rfl rfl
  | behave | destine => exact deals_stay _ r
  | tick limit htick =>
    refine (advances_of_tick htick).deals (isOver_of_tick htick) fun time => ?_
    obtain ⟨signal, server, log, heq⟩ := r.arrive_cases time
    exact ⟨signal, server, log, trivial, heq⟩

/-! ### What the elector is bound to -/

/-- What the elector of a run is bound to, phase by phase. It is the only candidate, and whatever
its renewals write claims the lease. It has sent nothing but what reads or claims the lease, and
what clears it in the end. It has a guard once the manager has led. While the lease is given back,
its renewals are over. -/
structure Bound (e : Elector) (phase : Phase) (world : World) : Prop where
  sole : world.candidates.length = 1
  renewals : world.Proposing e (·.Claims e.identity)
  sent : ∀ q ∈ world.sent, q.call = .read ∨ q.call.Claims e.identity ∨
    phase.isClosing = true ∧ ∃ now, q.call = .patch (Release.clearance now)
  guarded : phase.hasLed = true → world.At 0 fun c => c.guard.isSome = true
  seeking : ∀ activity, phase = .electing activity →
    ∃ p, activity = .acquiring 0 none p ∧ p.Proposes (·.Claims e.identity)
  releasing : ∀ activity, phase = .releasing activity →
    (∃ release due, activity = .releasing 0 release due ∧
      ∀ call, release = .clearing call → ∃ now, call = .patch (Release.clearance now)) ∧
    world.At 0 fun c => ∀ g, c.guard = some g → g.renewal.isOver = true

variable {e : Elector} {phase : Phase} {world : World}

theorem Bound.candidate (h : Bound e phase world) :
    ∃ c, world.candidate? 0 = some c ∧ c.elector = e := by
  have hpos : 0 < world.candidates.length := h.sole ▸ Nat.one_pos
  have hsome : world.candidate? 0 = some world.candidates[0] := List.getElem?_eq_getElem hpos
  exact ⟨_, hsome, (h.renewals _ (List.mem_of_getElem? hsome)).1⟩

theorem Bound.mono_sent (h : Bound e r.phase r.world) (hclosing : r.phase.isClosing = true →
      phase.isClosing = true) {q : Sent} (hq : q ∈ r.world.sent) :
    q.call = .read ∨ q.call.Claims e.identity ∨
      phase.isClosing = true ∧ ∃ now, q.call = .patch (Release.clearance now) :=
  (h.sent q hq).imp_right fun h => h.imp_right fun h => ⟨hclosing h.1, h.2⟩

/-- Another server changes nothing about it. -/
theorem Bound.congr (h : Bound e r.phase r.world)
    (hcandidates : world.candidates = r.world.candidates)
    (hsent : world.sent = r.world.sent) (hled : phase.hasLed = true → r.phase.hasLed = true)
    (hactivity : ∀ activity, phase = .electing activity ∨ phase = .releasing activity →
      phase = r.phase) (hclosing : r.phase.isClosing = true → phase = r.phase) :
    Bound e phase world := by
  refine ⟨?_, h.renewals.congr hcandidates, fun q hq => ?_, fun hphase => ?_,
    fun activity hphase => ?_, fun activity hphase => ?_⟩
  · rw [hcandidates]
    exact h.sole
  · exact h.mono_sent (fun hc => by rwa [hclosing hc]) (hsent ▸ hq)
  · exact (h.guarded (hled hphase)).congr hcandidates
  · exact h.seeking activity ((hactivity activity (.inl hphase)).symm.trans hphase)
  · obtain ⟨hactivity', hover⟩ :=
      h.releasing activity ((hactivity activity (.inr hphase)).symm.trans hphase)
    exact ⟨hactivity', hover.congr hcandidates⟩

theorem Bound.renewAll (h : Bound e phase world) : Bound e phase world.renewAll := by
  have hclaiming := World.claiming_renewAll h.renewals
  refine ⟨world.renewAll_length.trans h.sole, hclaiming.renewals, fun q hq => ?_,
    fun hled => (h.guarded hled).renewAll ?_, h.seeking, fun activity hphase => ?_⟩
  · rcases hclaiming.sent q hq with hq | hread | hclaims
    · exact h.sent q hq
    · exact .inl hread
    · exact .inr (.inl hclaims)
  · intro c g renewal due _ _ _
    cases renewal <;> rfl
  · obtain ⟨hactivity, hover⟩ := h.releasing activity hphase
    refine ⟨hactivity, hover.renewAll ?_⟩
    -- Renewals that are over do not move, so that there is nothing to show.
    intro c g renewal due hover hg hlive
    rw [hover g hg] at hlive
    cases hlive

/-- A manager that has no lease left is bound to nothing but what it has sent. -/
theorem bound_of_idle (hsole : world.candidates.length = 1)
    (hrenewals : world.Proposing e (·.Claims e.identity))
    (hsent : ∀ q ∈ world.sent, q.call = .read ∨ q.call.Claims e.identity ∨
      phase.isClosing = true ∧ ∃ now, q.call = .patch (Release.clearance now))
    (hled : phase.hasLed = false) (hactivity : ∀ activity, phase ≠ .electing activity) :
    Bound e phase world := by
  refine ⟨hsole, hrenewals, hsent, fun h => ?_, fun activity h => absurd h (hactivity activity),
    fun activity h => ?_⟩
  · rw [hled] at h
    cases h
  · rw [h] at hled
    cases hled

theorem Bound.seek (h : Bound e r.phase r.world) {activity : Activity} {progress : Progress}
    (hphase : r.phase = .electing activity)
    (hsettle : settle r.world activity = some (world, progress))
    (hnext : (∃ next, progress = .inl next ∧ phase = .electing next) ∨
      progress = .inr .acquired ∧ phase = .leading ∨ phase = .crashed) : Bound e phase world := by
  obtain ⟨c, hc, rfl⟩ := h.candidate
  obtain ⟨p, rfl, hp⟩ := h.seeking activity hphase
  have hseeks := World.seeks_of_settle hc hsettle
  have hsole := hseeks.length.trans h.sole
  have hrenewals := hseeks.proposing h.renewals hc
  have hsent : ∀ q ∈ world.sent, q.call = .read ∨ q.call.Claims c.elector.identity ∨
      phase.isClosing = true ∧ ∃ now, q.call = .patch (Release.clearance now) := by
    intro q hq
    obtain ⟨call, hcall, htouches⟩ := hseeks.touches hp
    rcases htouches.mem_sent hq with hq | rfl
    · refine h.mono_sent (fun hclosing => ?_) hq
      rw [hphase] at hclosing
      cases hclosing
    · exact hcall.imp_right .inl
  rcases hnext with ⟨next, rfl, rfl⟩ | ⟨rfl, rfl⟩ | rfl
  · obtain ⟨-, p', rfl, hp'⟩ := hseeks.goesOn hp (World.admits_claims _ _)
    refine ⟨hsole, hrenewals, hsent, (fun h => by cases h), fun activity h => ?_,
      (fun _ h => by cases h)⟩
    cases h
    exact ⟨p', rfl, hp'⟩
  · obtain ⟨w₁, call, hold, due, l, rfl, hcandidates, -⟩ := hseeks.gains hp
    have hc₁ : w₁.candidate? 0 = some c := by rwa [World.candidate?, hcandidates]
    exact ⟨hsole, hrenewals, hsent,
      fun _ => ⟨_, World.candidate?_setCandidate_self hc₁ _, rfl⟩,
      (fun _ h => by cases h), (fun _ h => by cases h)⟩
  · exact bound_of_idle hsole hrenewals hsent rfl (fun _ h => by cases h)

theorem Bound.begin (h : Bound e r.phase r.world) {activity : Activity}
    (hbegin : r.world.beginRelease 0 = some (world, activity)) :
    Bound e (.releasing activity) world := by
  have hrenewals := h.renewals.beginRelease hbegin
  obtain ⟨c, g, hc, hg, rfl, rfl⟩ := World.beginRelease_cases hbegin
  have hself := World.candidate?_setCandidate_self hc
    { c with guard := some { g with renewal := .stopped, due := none } }
  refine ⟨List.length_set.trans h.sole, hrenewals, fun q hq => h.mono_sent (fun _ => rfl) hq,
    fun _ => ⟨_, hself, rfl⟩, (fun _ h => nomatch h), fun activity hactivity => ?_⟩
  cases hactivity
  refine ⟨⟨_, _, rfl, (fun _ h => nomatch h)⟩, _, hself, fun g' hg' => ?_⟩
  cases hg'
  rfl

/-- What a release sends reads the lease, or clears it. -/
theorem Bound.release (h : Bound e phase world) {activity : Activity}
    (hphase : phase = .releasing activity) : ∃ release due, activity = .releasing 0 release due ∧
      (release.call = .read ∨ ∃ now, release.call = .patch (Release.clearance now)) := by
  obtain ⟨⟨release, due, rfl, hclears⟩, -⟩ := h.releasing activity hphase
  refine ⟨release, due, rfl, ?_⟩
  cases release with
  | reading => exact .inl rfl
  | clearing call => exact .inr (hclears call rfl)

theorem Bound.handBack (h : Bound e r.phase r.world) {activity : Activity} {progress : Progress}
    (hphase : r.phase = .releasing activity)
    (hsettle : settle r.world activity = some (world, progress))
    (hnext : (∃ next, progress = .inl next ∧ phase = .releasing next) ∨
      (∃ outcome, progress = .inr outcome) ∧ phase = .over none) : Bound e phase world := by
  obtain ⟨c, hc, rfl⟩ := h.candidate
  obtain ⟨release, due, rfl, hcall⟩ := h.release hphase
  obtain ⟨⟨release', due', hsame, hclears⟩, hover⟩ := h.releasing _ hphase
  cases hsame
  have hreturns := World.returns_of_settle hc hsettle
  have hrenewals := hreturns.proposing h.renewals
  have hsent : phase.isClosing = true → ∀ q ∈ world.sent, q.call = .read ∨
      q.call.Claims c.elector.identity ∨
        phase.isClosing = true ∧ ∃ now, q.call = .patch (Release.clearance now) := by
    intro hclosing q hq
    rcases hreturns.touches.mem_sent hq with hq | heq
    · exact h.mono_sent (fun _ => hclosing) hq
    · rw [heq]
      exact hcall.imp_right fun hclears => .inr ⟨hclosing, hclears⟩
  rcases hnext with ⟨next, rfl, rfl⟩ | ⟨⟨outcome, rfl⟩, rfl⟩
  · obtain ⟨hcandidates, release', due', rfl, hrelease⟩ := hreturns.goesOn
    refine ⟨hcandidates ▸ h.sole, hrenewals, hsent rfl,
      fun _ => (h.guarded (by rw [hphase]; rfl)).congr hcandidates, (fun _ h => nomatch h),
      fun activity hactivity => ?_⟩
    cases hactivity
    refine ⟨⟨release', due', rfl, ?_⟩, hover.congr hcandidates⟩
    rcases hrelease with rfl | ⟨-, rfl, -⟩
    · exact hclears
    · intro call hcall
      cases hcall
      exact ⟨_, rfl⟩
  · exact bound_of_idle (hreturns.length.trans h.sole) hrenewals (hsent rfl) rfl
      (fun _ h => nomatch h)

/-- The elector stays bound. -/
theorem Deals.bound (hdeals : r.Deals F phase world) (h : Bound e r.phase r.world) :
    Bound e phase world := by
  cases hdeals with
  | idle hworld hled hactivity hclosing hover =>
    exact h.congr (by rw [hworld]) (by rw [hworld]) hled hactivity hclosing
  | serve server hserver hphase hworld =>
    exact h.congr (by rw [hworld]) (by rw [hworld]) (fun hled => hphase ▸ hled)
      (fun _ _ => hphase) fun _ => hphase
  | wait server time hserver hphase hrunning hworld =>
    rw [hphase, hworld]
    exact Bound.renewAll (h.congr rfl rfl id (fun _ _ => rfl) fun _ => rfl)
  | seek hphase hsettle hnext => exact h.seek hphase hsettle hnext
  | drop hphase hworld hnext =>
    rw [hworld, hnext]
    refine bound_of_idle ((r.world.dropGuard_length 0).trans h.sole) (h.renewals.dropGuard 0)
      (fun q hq => ?_) rfl (fun _ h => nomatch h)
    rw [World.dropGuard_sent] at hq
    refine h.mono_sent (fun hclosing => ?_) hq
    rw [hphase] at hclosing
    cases hclosing
  | begin hphase hbegin hnext =>
    rw [hnext]
    exact h.begin hbegin
  | handBack hphase hsettle hnext => exact h.handBack hphase hsettle hnext

theorem bound_start {election : LeaderElection} (helection : m.election = some election) :
    Bound election.elector (start m s).phase (start m s).world := by
  have hcandidates : ∀ servers, (blank m s servers).world.candidates =
      [⟨election.elector, false, none⟩] := by simp [blank, World.initial, helection]
  have hsole : ∀ servers, (blank m s servers).world.candidates.length = 1 := by
    simp [hcandidates]
  have hrenewals : ∀ servers, (blank m s servers).world.Proposing election.elector
      (·.Claims election.elector.identity) := by
    intro servers c hc
    rw [hcandidates] at hc
    rw [List.mem_singleton.1 hc]
    exact ⟨rfl, fun _ hg => by cases hg⟩
  obtain ⟨error, -, heq⟩ | ⟨servers, -, ⟨-, heq⟩ | ⟨-, ⟨election, -, heq⟩ | ⟨hnone, -⟩⟩⟩ :=
    start_cases m s
  · rw [heq]
    exact bound_of_idle (hsole []) (hrenewals []) (fun _ hq => by cases hq) rfl
      (fun _ h => by cases h)
  · rw [heq]
    exact bound_of_idle (hsole []) (hrenewals []) (fun _ hq => by cases hq) rfl
      (fun _ h => by cases h)
  · rw [heq]
    refine ⟨hsole servers, hrenewals servers, (fun _ hq => by cases hq), (fun h => by cases h),
      fun activity h => ?_, (fun _ h => by cases h)⟩
    cases h
    exact ⟨_, rfl, Attempt.proposes_reading _ _⟩
  · cases hnone.symm.trans helection

/-- **The elector is bound in every course of a run.** -/
theorem Course.bound {election : LeaderElection} (helection : m.election = some election)
    (h : (start m s).Course r) : Bound election.elector r.phase r.world := by
  induction h with
  | refl => exact bound_start helection
  | tail _ hhappens ih => exact hhappens.deals.bound ih

/-! ### All tasks have stopped -/

/-- What is over stays over while the lease is given back. -/
theorem Happens.tasks_over (h : r.Happens r') {activity : Activity}
    (hphase : r.phase = .releasing activity)
    (hcontrollers : r.controllers.all ControllerTask.isOver = true)
    (hservers : r.servers.all ServerTask.isOver = true) :
    r'.controllers = r.controllers ∧ r'.servers = r.servers := by
  have hcontroller : ∀ {i : Nat} {t : ControllerTask}, r.controllers[i]? = some t →
      t.isOver ≠ false := fun ht => by
    simp [List.all_eq_true.1 hcontrollers _ (List.mem_of_getElem? ht)]
  have hserver : ∀ {i : Nat} {t : ServerTask}, r.servers[i]? = some t → t.isOver ≠ false :=
    fun ht => by simp [List.all_eq_true.1 hservers _ (List.mem_of_getElem? ht)]
  cases h with
  | serve => exact ⟨rfl, rfl⟩
  | behave i t state ht hruns => exact absurd hruns (hcontroller ht)
  | destine i t exit lingering ht hruns => exact absurd hruns (hserver ht)
  | tick limit htick =>
    cases advances_of_tick htick with
    | decide hturn hdecide =>
      cases decides_of_decide? hdecide with
      | handBack hactivity hback =>
        obtain ⟨world, progress, -, ⟨next, -, rfl⟩ | ⟨-, log, rfl, -⟩⟩ := handBack_cases hback
        all_goals exact ⟨rfl, rfl⟩
      | abandon hactivity | failEarly hactivity | elect hactivity | stop hactivity | lose hactivity
      | fail hactivity | note hactivity | drained hactivity | abort hactivity | finish hactivity
      | abortServers hactivity => exact nomatch hphase.symm.trans hactivity
    | yield | rest => exact ⟨rfl, rfl⟩
    | move hturn hmove =>
      rcases move_cases hmove with ⟨i, t, state, log, ht, hruns, -⟩ | ⟨i, t, failure, ht, hruns, -⟩
      · exact absurd hruns (hcontroller ht)
      · exact absurd hruns (hserver ht)
    | @wait time =>
      obtain ⟨signal, server, log, heq⟩ := r.arrive_cases (max time r.time)
      rw [heq]
      exact ⟨rfl, rfl⟩

theorem stopped_abort (servers : List ServerTask) :
    (servers.map ServerTask.abort).all ServerTask.isOver = true := by
  refine List.all_eq_true.2 fun t ht => ?_
  obtain ⟨t', -, rfl⟩ := List.mem_map.1 ht
  unfold ServerTask.abort
  split_ifs with hover
  · exact hover
  · rfl

/-- A run that begins to give the lease back has no server left. -/
theorem Happens.begins (h : r.Happens r') {activity : Activity}
    (hphase : r'.phase = .releasing activity)
    (hbefore : ∀ activity, r.phase ≠ .releasing activity) :
    r'.servers.all ServerTask.isOver = true := by
  cases h with
  | serve | behave | destine => exact absurd hphase (hbefore activity)
  | tick limit htick =>
    cases advances_of_tick htick with
    | decide hturn hdecide =>
      cases decides_of_decide? hdecide with
      | abandon | failEarly | stop | lose | fail | drained | abort => exact nomatch hphase
      | elect hactivity hsignal hexit helect =>
        obtain ⟨world, progress, -, ⟨next, log, -, rfl, -⟩ | ⟨-, rfl⟩ | ⟨-, rfl⟩⟩ :=
          elect_cases helect
        all_goals cases hphase
      | @note t ending hleading hunnoted =>
        rcases r.noteEnding_cases t ending with ⟨error, -, heq⟩ | ⟨-, heq⟩
        · rw [heq] at hphase
          cases hphase
        · rw [heq] at hphase
          exact nomatch hleading.symm.trans hphase
      | finish hactivity hover =>
        show (Run.servers (r.finish _ _)).all ServerTask.isOver = true
        rwa [(tasks_finish _ _ _).2]
      | abortServers hactivity hlate =>
        show (Run.servers (Run.finish _ _ _)).all ServerTask.isOver = true
        rw [(tasks_finish _ _ _).2]
        exact stopped_abort r.servers
      | handBack hactivity => exact absurd hactivity (hbefore _)
    | yield | rest => exact absurd hphase (hbefore activity)
    | move hturn hmove =>
      obtain ⟨controllers, servers, log, rfl, -⟩ := move?_cases hmove
      exact absurd hphase (hbefore activity)
    | @wait time =>
      obtain ⟨signal, server, log, heq⟩ := r.arrive_cases (max time r.time)
      rw [heq] at hphase
      exact absurd hphase (hbefore activity)

/-- **A lease is given back after all tasks have stopped**: every controller has finished or was
aborted, and so has every server. -/
theorem Course.drained (h : (start m s).Course r) (helection : m.election.isSome)
    {activity : Activity} (hphase : r.phase = .releasing activity) :
    r.controllers.all ControllerTask.isOver = true ∧ r.servers.all ServerTask.isOver = true := by
  have hcontrollers : ∀ {b}, (start m s).Course b → ∀ {activity}, b.phase = .releasing activity →
      b.controllers.all ControllerTask.isOver = true := by
    intro b hb activity hphase
    have horderly := (hb.governed helection).orderly
    unfold Orderly at horderly
    rwa [hphase] at horderly
  refine ⟨hcontrollers h hphase, ?_⟩
  induction h generalizing activity with
  | refl =>
    obtain ⟨error, -, heq⟩ | ⟨servers, -, ⟨-, heq⟩ | ⟨-, ⟨election, -, heq⟩ | ⟨-, heq⟩⟩⟩ :=
      start_cases m s
    all_goals
      rw [heq] at hphase
      cases hphase
  | @tail a b ha hhappens ih =>
    by_cases hbefore : ∃ activity, a.phase = .releasing activity
    · obtain ⟨activity', hactivity⟩ := hbefore
      have hservers := ih hactivity
      rw [(hhappens.tasks_over hactivity (hcontrollers ha hactivity) hservers).2]
      exact hservers
    · exact hhappens.begins hphase fun activity' h => hbefore ⟨activity', h⟩

/-! ### How the lease is given back -/

/-- In this step the release reads that the elector holds the lease, and goes on to clear it. -/
structure Confirms (e : Elector) (r r' : Run) : Prop where
  reads : ∃ due, r.phase = .releasing (.releasing 0 .reading due)
  owned : r.world.server.store.OwnedBy e.identity
  clears : ∃ due, r'.phase =
    .releasing (.releasing 0 (.clearing (.patch (Release.clearance r.world.now))) due)

/-- In this step the release sends a request that clears the lease. -/
structure Clears (q : Sent) (r r' : Run) : Prop where
  clears : ∃ due, r.phase = .releasing (.releasing 0 (.clearing q.call) due)
  sent : r'.world.sent = q :: r.world.sent

/-- Nothing but a release sends a patch. -/
theorem Deals.patch (hdeals : r.Deals F phase world) (h : Bound e r.phase r.world) {q : Sent}
    (hq : q ∈ world.sent) {change : Lease.SpecPatch} (hpatch : q.call = .patch change) :
    q ∈ r.world.sent ∨ (∃ due, r.phase = .releasing (.releasing 0 (.clearing q.call) due)) ∧
      world.sent = q :: r.world.sent := by
  have hclaims : ¬ (q.call = .read ∨ q.call.Claims e.identity) := by
    rw [hpatch]
    rintro (hread | hclaims)
    · cases hread
    · cases hclaims
  cases hdeals with
  | idle hworld => exact .inl (hworld ▸ hq)
  | serve server hserver hphase hworld =>
    rw [hworld] at hq
    exact .inl hq
  | wait server time hserver hphase hrunning hworld =>
    have hclaiming := World.claiming_renewAll (e := e)
      (w := { r.world with time := time, server := server }) (h.renewals.congr rfl)
    rw [hworld] at hq
    exact .inl ((hclaiming.sent q hq).resolve_right hclaims)
  | seek hphase hsettle hnext =>
    obtain ⟨c, hc, rfl⟩ := h.candidate
    obtain ⟨p, rfl, hp⟩ := h.seeking _ hphase
    obtain ⟨call, hcall, htouches⟩ := (World.seeks_of_settle hc hsettle).touches hp
    refine .inl ((htouches.mem_sent hq).resolve_right ?_)
    rintro rfl
    exact hclaims hcall
  | drop hphase hworld =>
    rw [hworld, World.dropGuard_sent] at hq
    exact .inl hq
  | begin hphase hbegin =>
    obtain ⟨c, g, -, -, -, rfl⟩ := World.beginRelease_cases hbegin
    exact .inl hq
  | handBack hphase hsettle hnext =>
    obtain ⟨c, hc, rfl⟩ := h.candidate
    obtain ⟨⟨release, due, rfl, -⟩, -⟩ := h.releasing _ hphase
    have htouches := (World.returns_of_settle hc hsettle).touches
    rcases htouches.sent with heq | ⟨target, heq⟩
    · exact .inl (heq ▸ hq)
    · rw [heq] at hq
      rcases List.mem_cons.1 hq with rfl | hq
      · cases release with
        | reading => cases hpatch
        | clearing call => exact .inr ⟨⟨due, hphase⟩, heq⟩
      · exact .inl hq

/-- A release clears the lease only after it has read it. -/
theorem Deals.clearing (hdeals : r.Deals F phase world) (h : Bound e r.phase r.world)
    {call : LeaseCall} {due : Option Nat}
    (hphase : phase = .releasing (.releasing 0 (.clearing call) due)) :
    (∃ due, r.phase = .releasing (.releasing 0 (.clearing call) due)) ∨
      (∃ due, r.phase = .releasing (.releasing 0 .reading due)) ∧
        r.world.server.store.OwnedBy e.identity ∧
        call = .patch (Release.clearance r.world.now) := by
  cases hdeals with
  | idle hworld hled hactivity hclosing hover =>
    exact .inl ⟨due, (hactivity _ (.inr hphase)).symm.trans hphase⟩
  | serve server hserver hsame | wait server time hserver hsame =>
    exact .inl ⟨due, hsame.symm.trans hphase⟩
  | seek hactivity hsettle hnext =>
    rcases hnext with ⟨next, -, hnext⟩ | ⟨-, hnext⟩ | hnext
    all_goals exact nomatch hnext.symm.trans hphase
  | drop hactivity hworld hnext => exact nomatch hnext.symm.trans hphase
  | begin hactivity hbegin hnext =>
    obtain ⟨c, g, -, -, rfl, -⟩ := World.beginRelease_cases hbegin
    exact nomatch hnext.symm.trans hphase
  | handBack hactivity hsettle hnext =>
    obtain ⟨c, hc, rfl⟩ := h.candidate
    obtain ⟨⟨release, due', rfl, -⟩, -⟩ := h.releasing _ hactivity
    rcases hnext with ⟨next, rfl, hnext⟩ | ⟨-, hnext⟩
    · obtain ⟨-, release', due'', rfl, hrelease⟩ := (World.returns_of_settle hc hsettle).goesOn
      rw [hnext] at hphase
      cases hphase
      rcases hrelease with rfl | ⟨rfl, hclears, howned⟩
      · exact .inl ⟨due', hactivity⟩
      · exact .inr ⟨⟨due', hactivity⟩, howned, Release.clearing.inj hclears⟩
    · exact nomatch hnext.symm.trans hphase

theorem sent_start (m : Manager) (s : Surroundings) : (start m s).world.sent = [] := by
  obtain ⟨error, -, heq⟩ | ⟨servers, -, ⟨-, heq⟩ | ⟨-, ⟨election, -, heq⟩ | ⟨-, heq⟩⟩⟩ :=
    start_cases m s
  all_goals
    rw [heq]
    rfl

/-- A manager whose elector has a guard can begin to give the lease back. -/
theorem Bound.beginRelease_ne_none (h : Bound e phase world) (hled : phase.hasLed = true) :
    world.beginRelease 0 ≠ none := by
  obtain ⟨c, hc, hguard⟩ := h.guarded hled
  obtain ⟨g, hg⟩ := Option.isSome_iff_exists.1 hguard
  simp [World.beginRelease, hc, hg]

/-- A lease that is given back was begun to be given back. -/
theorem Course.began (h : (start m s).Course r) {activity : Activity}
    (hphase : r.phase = .releasing activity) :
    ∃ b, (start m s).Course b ∧ b.Course r ∧
      b.phase = .releasing (.releasing 0 .reading none) := by
  induction h generalizing activity with
  | refl =>
    obtain ⟨error, -, heq⟩ | ⟨servers, -, ⟨-, heq⟩ | ⟨-, ⟨election, -, heq⟩ | ⟨-, heq⟩⟩⟩ :=
      start_cases m s
    all_goals
      rw [heq] at hphase
      cases hphase
  | @tail a c ha hhappens ih =>
    have hbefore : ∀ {activity}, a.phase = .releasing activity → ∃ b, (start m s).Course b ∧
        b.Course c ∧ b.phase = .releasing (.releasing 0 .reading none) := fun h =>
      (ih h).imp fun b ⟨hb, hba, hreading⟩ => ⟨hb, hba.tail hhappens, hreading⟩
    cases hhappens.deals with
    | idle hworld hled hactivity => exact hbefore ((hactivity _ (.inr hphase)).symm.trans hphase)
    | serve server hserver hsame | wait server time hserver hsame =>
      exact hbefore (hsame.symm.trans hphase)
    | seek hactivity hsettle hnext =>
      rcases hnext with ⟨next, -, hnext⟩ | ⟨-, hnext⟩ | hnext
      all_goals exact nomatch hnext.symm.trans hphase
    | drop hactivity hworld hnext => exact nomatch hnext.symm.trans hphase
    | begin hactivity hbegin hnext =>
      obtain ⟨-, -, -, -, rfl, -⟩ := World.beginRelease_cases hbegin
      exact ⟨c, ha.tail hhappens, .refl, hnext⟩
    | handBack hactivity => exact hbefore hactivity

section Courses

variable {election : LeaderElection} (helection : m.election = some election)

include helection

/-- **Who has led and ends well gives the lease back.** -/
theorem Course.attempts (hb : (start m s).Course b) (hled : b.phase = .leading) (h : b.Course r)
    (hphase : r.phase = .over none) :
    ∃ a, (start m s).Course a ∧ a.Course r ∧
      a.phase = .releasing (.releasing 0 .reading none) := by
  induction h with
  | refl => exact nomatch hled.symm.trans hphase
  | @tail a c hba hhappens ih =>
    have ha : (start m s).Course a := hb.trans hba
    have hbefore : a.phase = .over none → ∃ d, (start m s).Course d ∧ d.Course c ∧
        d.phase = .releasing (.releasing 0 .reading none) := fun h =>
      (ih h).imp fun d ⟨hd, hda, hreading⟩ => ⟨hd, hda.tail hhappens, hreading⟩
    cases hhappens.deals with
    | idle hworld hpassed hactivity hclosing hover =>
      rcases hover hphase with hsame | hunled | ⟨hled', hnone⟩
      · exact hbefore (hsame.symm.trans hphase)
      · rw [Course.led hba (by rw [hled]; rfl)] at hunled
        cases hunled
      · exact absurd hnone ((Course.bound helection ha).beginRelease_ne_none hled')
    | serve server hserver hsame | wait server time hserver hsame =>
      exact hbefore (hsame.symm.trans hphase)
    | seek hactivity hsettle hnext =>
      rcases hnext with ⟨next, -, hnext⟩ | ⟨-, hnext⟩ | hnext
      all_goals exact nomatch hnext.symm.trans hphase
    | drop hactivity hworld hnext => exact nomatch hnext.symm.trans hphase
    | begin hactivity hbegin hnext => exact nomatch hnext.symm.trans hphase
    | handBack hactivity =>
      exact (Course.began ha hactivity).imp fun d ⟨hd, hda, hreading⟩ =>
        ⟨hd, hda.tail hhappens, hreading⟩

/-- A release clears the lease after it has read that the elector holds it. -/
theorem Course.confirmed (h : (start m s).Course r) {call : LeaseCall} {due : Option Nat}
    (hphase : r.phase = .releasing (.releasing 0 (.clearing call) due)) :
    ∃ a a', (start m s).Course a ∧ a.Happens a' ∧ a'.Course r ∧
      Confirms election.elector a a' := by
  induction h generalizing due with
  | refl =>
    obtain ⟨error, -, heq⟩ | ⟨servers, -, ⟨-, heq⟩ | ⟨-, ⟨election, -, heq⟩ | ⟨-, heq⟩⟩⟩ :=
      start_cases m s
    all_goals
      rw [heq] at hphase
      cases hphase
  | @tail b c hb hhappens ih =>
    rcases hhappens.deals.clearing (Course.bound helection hb) hphase with ⟨due', hbefore⟩ |
      ⟨hreads, howned, rfl⟩
    · obtain ⟨a, a', ha, haa', ha'b, hconfirms⟩ := ih hbefore
      exact ⟨a, a', ha, haa', ha'b.tail hhappens, hconfirms⟩
    · exact ⟨b, c, hb, hhappens, .refl, hreads, howned, due, hphase⟩

/-- **How a patch came to be sent**: the release has read that the elector holds the lease, and then
it has sent the patch. -/
theorem Course.cleared (h : (start m s).Course r) {q : Sent} (hq : q ∈ r.world.sent)
    {change : Lease.SpecPatch} (hpatch : q.call = .patch change) :
    ∃ a a' b b', (start m s).Course a ∧ a.Happens a' ∧ a'.Course b ∧ b.Happens b' ∧ b'.Course r ∧
      Confirms election.elector a a' ∧ Clears q b b' := by
  induction h with
  | refl =>
    rw [sent_start] at hq
    cases hq
  | @tail b c hb hhappens ih =>
    rcases hhappens.deals.patch (Course.bound helection hb) hq hpatch with
      hq | ⟨⟨due, hclears⟩, hsent⟩
    · obtain ⟨a, a', d, d', ha, haa', ha'd, hdd', hd'b, hall⟩ := ih hq
      exact ⟨a, a', d, d', ha, haa', ha'd, hdd', hd'b.tail hhappens, hall⟩
    · obtain ⟨a, a', ha, haa', ha'b, hconfirms⟩ := Course.confirmed helection hb hclears
      exact ⟨a, a', b, c, ha, haa', ha'b, hhappens, .refl, hconfirms, ⟨due, hclears⟩, hsent⟩

end Courses

end Run

end ControllerManager.Manager
