import ControllerManager.Proofs.Manager.Termination

/-!
# The result of a run

A run has the result of the earliest event that ends it, and it always comes to this result once
such an event is there. Only two things keep a run from a result. The webhooks that a manager has
accepted cannot always be served together, and an elector crashes over a lease of somebody else
whose expiry lies beyond the calendar.

## Main definitions

* `Manager.foreignLease` — a lease over which every elector but its holder crashes.
* `Manager.conflictingManager` — a manager whose webhooks cannot be served together.

## Main results

* `Manager.Run.exists_crashed` — a run of every manager with an election that dies.
* `Manager.Run.result_of_earliest_event` — the result of a run, and when every run has one.
* `Manager.Run.accepted_webhooks_crash` — a run that dies of the webhooks that were accepted.
-/

namespace ControllerManager.Manager

open Cluster Election Simulation

/-- A lease of somebody else, with the last moment of the calendar as its time of renewal. -/
def foreignLease (identity : String) : Lease where
  name := none
  namespaceName := none
  resourceVersion := none
  labels := none
  spec := some { Lease.Spec.blank with
    holder := some (identity ++ "x")
    durationSeconds := some 15
    renewTime := some Lease.Instant.latest }

theorem crashesOver_foreignLease (e : Elector) (now : Lease.Instant) :
    e.CrashesOver now (foreignLease e.identity) := by
  refine ⟨fun hsame => ?_, .inl rfl⟩
  have hlength := congrArg String.length (Option.some.inj hsame)
  simp at hlength

/-- Surroundings in which the lease belongs to somebody else for ever. -/
def foreignSurroundings (site : Site) (identity : String) : Surroundings where
  site := site
  server := ⟨⟨some (foreignLease identity), [], 0, true⟩, [], false, false⟩
  connected := true
  clock := fun _ => 0
  signal := .initial
  agenda := []

/-- A manager without an election that admits everything at the paths, if they are accepted. -/
def withWebhooks (paths : List String) : Except Error Manager :=
  paths.foldlM (fun m path => m.addWebhook path path Admission.allowAll)
    { soleManager 0 [] with election := none }

namespace Run

variable {m : Manager} {s : Surroundings} {r : Run} {site : Site} {servers : List ServerTask}

/-- Servers that were started serve. -/
theorem serving_of_serverTasks (h : serverTasks m site = .ok servers) :
    ∀ t ∈ servers, t.state = .serving := by
  have hplain : ∀ {site name address tasks site'},
      plainServer site name address = .ok (tasks, site') → ∀ t ∈ tasks, t.state = .serving := by
    intro site name address tasks site' h
    unfold plainServer at h
    split at h
    · cases h
      exact fun _ ht => nomatch ht
    · split at h
      · cases h
      · cases h
        intro t ht
        rw [List.mem_singleton.1 ht]
        rfl
  unfold serverTasks at h
  rcases hhealth : plainServer site .health m.healthProbeAddress with error | ⟨health, site₁⟩
  · rw [hhealth] at h
    cases h
  · rcases hmetrics : plainServer site₁ .metrics m.metricsAddress with error | ⟨metrics, site₂⟩
    · simp only [hhealth, bind, Except.bind, hmetrics] at h
      cases h
    · simp only [hhealth, bind, Except.bind, hmetrics, pure, Except.pure, Except.ok.injEq] at h
      subst h
      intro t ht
      rcases List.mem_append.1 ht with ht | ht
      · rcases List.mem_append.1 ht with ht | ht
        · exact hplain hhealth t ht
        · exact hplain hmetrics t ht
      · split_ifs at ht
        · cases ht
        · rw [List.mem_singleton.1 ht]
          rfl

theorem decide?_electing {activity : Activity} (hphase : r.phase = .electing activity)
    (hsignal : r.signal.resolved = false) (hexit : r.serverExit? = none) :
    r.decide? = r.elect activity := by
  simp [decide?, hphase, hsignal, hexit]

/-- **A run that dies** over a lease of somebody else, for every manager with an election whose
requests can be sent. -/
theorem exists_crashed {election : LeaderElection} {target : Target}
    (hlisten : serverTasks m site = .ok servers)
    (hbuild : (Webhook.Service.build? m.webhooks).isSome = true)
    (helection : m.election = some election)
    (htarget : election.elector.target .read = .ok target) :
    ∃ r, (start m (foreignSurroundings site election.elector.identity)).Course r ∧
      r.phase = .crashed := by
  have hservers : servers.findSome? ServerTask.exitError? = none :=
    List.findSome?_eq_none_iff.2 fun t ht => by
      rw [ServerTask.exitError?, serving_of_serverTasks hlisten t ht]
  have hcrash := Attempt.receive_eq_crashed_iff.2
    ⟨0, _, rfl, rfl, crashesOver_foreignLease election.elector 0⟩
  obtain ⟨crash, hcrash⟩ := hcrash
  let s := foreignSurroundings site election.elector.identity
  let w := (blank m s servers).world
  have hsettle : ∃ w', settle w (w.beginAcquire 0 none) = some (w', .inr (.crashed crash)) := by
    simp [settle, World.beginAcquire, World.now, Activity.nextTime, World.sendActivity,
      World.candidate?, w, blank, World.initial, helection, World.send, htarget, s,
      foreignSurroundings, Attempt.call, Server.nextDelay, Server.respond, LeaseStore.handle,
      LeaseStore.stored, World.acquireAnswer, hcrash, World.acquireVerdict]
  obtain ⟨w', hsettle⟩ := hsettle
  have hstart : start m s = ((blank m s servers).note .electionBegan).enter
      (.electing (w.beginAcquire 0 none)) := by
    obtain ⟨error, herror, -⟩ | ⟨servers', hservers', ⟨hnone, -⟩ | ⟨-, ⟨election', -, heq⟩ |
      ⟨hnone, -⟩⟩⟩ := start_cases m s
    · cases hlisten.symm.trans herror
    · rw [hnone] at hbuild
      cases hbuild
    · obtain rfl := Except.ok.inj (hlisten.symm.trans hservers')
      exact heq
    · rw [hnone] at helection
      cases helection
  have hdecide : (start m s).decide? =
      some ({ start m s with world := w' }.enter .crashed) := by
    have hphase : (start m s).phase = .electing (w.beginAcquire 0 none) := by rw [hstart]; rfl
    have hsignal : (start m s).signal.resolved = false := by rw [hstart]; rfl
    have hexit : (start m s).serverExit? = none := by rw [hstart]; exact hservers
    have hworld : (start m s).world = w := by rw [hstart]; rfl
    rw [decide?_electing hphase hsignal hexit, elect, hworld, hsettle]
    rfl
  have htick : (start m s).tick 0 =
      some ({ start m s with world := w' }.enter .crashed) := by
    have hover : (start m s).isOver = false := by rw [hstart]; rfl
    have hturn : (start m s).turn = .opening := by rw [hstart]; rfl
    simp [tick, hover, hturn, hdecide]
  exact ⟨_, .single (.tick 0 htick), rfl⟩

/-! ### Results -/

/-- How a run comes to its result. -/
structure Results (m : Manager) (s : Surroundings) (r : Run) : Prop where
  /-- It was decided by an event that was there then, and no event was there before. -/
  decided : ∀ o, r.phase.outcome? = some o →
    ∃ d, (start m s).Course d ∧ d.Course r ∧ d.Ends o ∧ r.stopped = some d.time ∧
      ∀ b o', (start m s).Course b → b.Course d → b.Ends o' → b.time = d.time
  /-- It is over by itself with the outcome that was decided. -/
  returns : ∀ o, r.phase.outcome? = some o → ∃ limit steps, (r.ticks limit steps).phase = .over o
  /-- An event that ends it makes it decided at once, by that event or another one of that time. -/
  ends : r.phase.isOpen = true → ∀ o', r.Ends o' → ∃ d o limit steps, r.Course d ∧
    d.Course (r.ticks limit steps) ∧ d.time = r.time ∧ d.Ends o ∧
    (r.ticks limit steps).phase = .over o
  /-- While the lease is awaited, nothing ends it but the request to stop and the end of a server.
  -/
  awaiting : ∀ activity, r.phase = .electing activity → ∀ o, r.Ends o →
    (o = none ∧ r.signal.resolved = true) ∨
      ∃ t ∈ r.servers, ∃ error, t.exitError? = some error ∧ o = some error
  /-- It has no result only where its webhooks cannot be served together, or its elector has crashed
  over a lease. -/
  crashed : r.phase = .crashed → Webhook.Service.build? m.webhooks = none ∨
    ∃ b, (start m s).Course b ∧ b.Course r ∧ b.Doomed m

theorem Course.results (h : (start m s).Course r) (hlisten : serverTasks m s.site = .ok servers)
    (hrests : m.Rests) : Results m s r := by
  have hover : ∀ {r : Run}, (start m s).Course r → r.Due → ∃ limit steps o,
      (r.ticks limit steps).phase = .over o := by
    intro r hr hdue
    obtain ⟨limit, steps, o, hticks⟩ := exists_ticks_over hr hrests hdue
    exact ⟨limit, steps, o, hticks limit (Nat.le_refl limit)⟩
  refine ⟨fun o ho => ?_, fun o ho => ?_, fun hopen o' hends => ?_,
    fun activity hphase o hends => ?_, h.crashed⟩
  · rcases start_isOpen hlisten with ⟨-, hopen⟩ | ⟨-, hcrashed⟩
    · obtain ⟨d, hd, hdr, hdopen, hends, hstopped⟩ := Course.decided .refl hopen h ho
      exact ⟨d, hd, hdr, hends, hstopped, fun b o' hb hbd hends' =>
        (hb.stands hbd hdopen hends').1.symm⟩
    · rw [(h.stays (by rw [isOver, hcrashed])).1, hcrashed] at ho
      cases ho
  · obtain ⟨limit, steps, o', hphase⟩ := hover h (.inl fun hnone => by cases hnone.symm.trans ho)
    have hkept := (course_ticks r limit steps).outcome ho
    rw [hphase] at hkept
    obtain rfl : o' = o := Option.some.inj hkept
    exact ⟨limit, steps, hphase⟩
  · obtain ⟨limit, steps, o, hphase⟩ := hover h (.inr ⟨hopen, o', hends⟩)
    have hcourse := course_ticks r limit steps
    obtain ⟨d, hrd, hdr, hdopen, hends', -⟩ := h.decided hopen hcourse (by rw [hphase]; rfl)
    exact ⟨d, o, limit, steps, hrd, hdr, (h.stands hrd hdopen hends).1, hends', hphase⟩
  · obtain ⟨election, phase, -, hseeking⟩ := h.seeking hphase
    exact hends.of_awaiting hseeking

/-- **The result of a run, and when every run has one.** A run whose servers listen has the result
of the earliest event that ends it. It dies without a result only where its webhooks cannot be
served together, or its elector has crashed over a lease. Both can happen: no run of a manager dies
exactly if its webhooks can be served together and it has no election. -/
theorem result_of_earliest_event (m : Manager) (site : Site) (servers : List ServerTask)
    (hlisten : serverTasks m site = .ok servers) (hrests : m.Rests) :
    (∀ s r, s.site = site → (start m s).Course r → Results m s r) ∧
      ((∀ election, m.election = some election →
          ∃ target, election.elector.target .read = .ok target) →
        ((∀ s r, s.site = site → (start m s).Course r → r.phase ≠ .crashed) ↔
          (Webhook.Service.build? m.webhooks).isSome = true ∧ m.election = none)) := by
  refine ⟨?_, fun hsends => ⟨fun hnever => ?_, ?_⟩⟩
  · rintro s r rfl h
    exact h.results hlisten hrests
  · have hbuild : (Webhook.Service.build? m.webhooks).isSome = true := by
      rcases start_isOpen (s := foreignSurroundings site "") hlisten with ⟨hbuild, -⟩ |
        ⟨-, hcrashed⟩
      · exact hbuild
      · exact absurd hcrashed (hnever _ _ rfl .refl)
    refine ⟨hbuild, ?_⟩
    cases helection : m.election with
    | none => rfl
    | some election =>
      obtain ⟨target, htarget⟩ := hsends election helection
      obtain ⟨r, hr, hcrashed⟩ := exists_crashed hlisten hbuild helection htarget
      exact absurd hcrashed (hnever _ r rfl hr)
  · rintro ⟨hbuild, hnone⟩ s r rfl h hcrashed
    rcases h.crashed hcrashed with hunserved | ⟨b, -, -, election, now, due, l, helection, -⟩
    · rw [hunserved] at hbuild
      cases hbuild
    · rw [hnone] at helection
      cases helection

/-- A manager whose only controller fails has the failure as its result. -/
theorem sole_failure_results : ∃ r limit steps,
    (start (soleManager 0 [.fail (.runtime "boom")]) (lateAnswer 0)).Course r ∧
      (r.ticks limit steps).phase =
        .over (some (.runtime "controller sole: manager runtime error: boom")) := by
  have hrests : (soleManager 0 [.fail (.runtime "boom")]).Rests := by
    rintro election helection
    cases helection
    decide
  obtain ⟨hall, -⟩ := result_of_earliest_event _ (lateAnswer 0).site [] rfl hrests
  -- Within seven ticks the lease is gained, the controller has failed, and the run is decided.
  obtain ⟨limit, steps, hover⟩ := (hall (lateAnswer 0) _ rfl (course_ticks _ 0 7)).returns _ rfl
  exact ⟨_, limit, steps, course_ticks _ 0 7, hover⟩

theorem eq_ok_of_toOption {ε α : Type} {x : Except ε α} {a : α} (h : x.toOption = some a) :
    x = .ok a := by
  cases x with
  | error e => cases h
  | ok b =>
    cases h
    rfl

/-- **A run that dies of accepted webhooks**: their server would end the run at once, as it cannot
read its certificate, but the two paths cannot be served together. -/
theorem accepted_webhooks_crash : ∃ m servers,
    withWebhooks ["/a/\x7bx\x7d", "/a/\x7by\x7d"] = .ok m ∧
    serverTasks m (lateAnswer 0).site = .ok servers ∧
    (∃ t ∈ servers, ∃ error, t.exit = some (0, some error)) ∧
    ∀ r, (start m (lateAnswer 0)).Course r → r.phase = .crashed := by
  have hexit : ((withWebhooks ["/a/\x7bx\x7d", "/a/\x7by\x7d"]).toOption.bind fun m =>
      (serverTasks m (lateAnswer 0).site).toOption.map fun servers =>
        (servers.map fun t => t.exit.map fun e => (e.1, e.2.isSome),
          (Webhook.Service.build? m.webhooks).isNone)) = some ([some (0, true)], true) := by
    decide +kernel
  obtain ⟨m, hm, hbind⟩ := Option.bind_eq_some_iff.1 hexit
  obtain ⟨servers, hservers, heq⟩ := Option.map_eq_some_iff.1 hbind
  have hlisten := eq_ok_of_toOption hservers
  obtain ⟨hexits, hbuild⟩ := Prod.mk.inj heq
  refine ⟨m, servers, eq_ok_of_toOption hm, hlisten, ?_, fun r hr => ?_⟩
  · obtain ⟨t, rfl, ht⟩ := List.map_eq_singleton_iff.1 hexits
    obtain ⟨⟨time, failure⟩, he, htime⟩ := Option.map_eq_some_iff.1 ht
    obtain ⟨rfl, hfailure⟩ := Prod.mk.inj htime
    obtain ⟨error, rfl⟩ := Option.isSome_iff_exists.1 hfailure
    exact ⟨t, List.mem_cons_self, error, he⟩
  · rcases start_isOpen hlisten with ⟨hbuild', -⟩ | ⟨-, hcrashed⟩
    · rw [Option.isNone_iff_eq_none.1 hbuild] at hbuild'
      cases hbuild'
    · exact (hr.stays (by rw [isOver, hcrashed])).1.trans hcrashed

end Run

end ControllerManager.Manager
