import ControllerManager.Proofs.Manager.Dealings
import ControllerManager.Proofs.Manager.Lapse
import ControllerManager.Simulation.Command

/-!
# The lease is handed back

A manager that has led and ends well hands its lease back after everything has stopped, and no other
manager does. Where nobody else changes the lease, it belongs to the elector from the moment it was
gained until a patch clears it. It may have been gained from somebody else whose lease ran out,
since the clock goes on. After the patch none of the writes that were sent before is accepted any
more, even if it reaches the server only then.

## Main definitions

* `Manager.Run.Abides`, `Manager.Run.Undisturbed` — what happens while nobody else changes the
  lease.
* `Manager.Run.Tenancy` — who holds the lease of a manager that has led.
* `Manager.Run.Served` — what happens while the server answers normally.
* `Manager.Run.HandsBack` — how the lease is handed back.

## Main results

* `Manager.Run.Undisturbed.tenancy` — the lease is the elector's until it is handed back.
* `Manager.Run.Undisturbed.refused` — what was sent before is refused after that.
* `Manager.Run.freed_of_served` — the lease is handed back where the server answers normally.
* `Manager.Run.lease_handed_back` — all of it.
* `Manager.Run.stopped_manager_hands_back` — a manager that has waited for another one's lease.
-/

namespace ControllerManager.Manager

open Cluster Election Simulation

namespace Run

variable {m : Manager} {s : Surroundings} {r r' b c : Run} {e : Elector} {phase : Phase}
  {world : World}

/-! ### Runs that are alone with their lease -/

/-- The run after a request that was sent has reached the server, late or once more. -/
def land (r : Run) (q : Sent) : Run :=
  { r with world := r.world.withStore (r.world.server.store.handle q.call).1 }

/-- One thing that happens to a run while nobody else changes the lease. The server answers as it
likes, but keeps the lease, and requests that were sent may reach it at any time. A lease of
somebody else is not renewed, so that it may run out. -/
inductive Abides : Run → Run → Prop
  | tick {r r' : Run} (limit : Nat) (h : r.tick limit = some r')
      (hagenda : ∀ entry ∈ r.agenda, ∀ change, entry.2 ≠ .update change) : Abides r r'
  | serve {r : Run} (server : Server) (hstore : server.store = r.world.server.store) :
      Abides r { r with world := { r.world with server := server } }
  | land {r : Run} (q : Sent) (hq : q ∈ r.world.sent) : Abides r (r.land q)
  | behave {r : Run} (i : Nat) (t : ControllerTask) (state : ControllerState)
      (ht : r.controllers[i]? = some t) (hruns : t.isOver = false) (hown : state.Own) :
      Abides r { r with controllers := r.controllers.set i { t with state := state } }
  | destine {r : Run} (i : Nat) (t : ServerTask) (exit : Option (Nat × Option Error))
      (lingering : Nat) (ht : r.servers[i]? = some t) (hruns : t.isOver = false) :
      Abides r
        { r with servers := r.servers.set i { t with exit := exit, lingering := lingering } }

/-- A run comes from another one while nobody else changes the lease. -/
abbrev Undisturbed : Run → Run → Prop := Relation.ReflTransGen Abides

theorem Abides.happens (h : r.Abides r') : r.Happens r' := by
  cases h with
  | tick limit htick => exact .tick limit htick
  | serve server => exact .serve server
  | land q => exact .serve { r.world.server with store := (r.world.server.store.handle q.call).1 }
  | behave i t state ht hruns hown => exact .behave i t state ht hruns hown
  | destine i t exit lingering ht hruns => exact .destine i t exit lingering ht hruns

theorem Undisturbed.course (h : r.Undisturbed r') : r.Course r' :=
  Relation.ReflTransGen.mono (fun _ _ => Abides.happens) _ _ h

/-- A store that comes of a request that was sent, or of none. -/
def Kept (r : Run) (store : LeaseStore) : Prop :=
  ∃ call, (call = .read ∨ ∃ q ∈ r.world.sent, q.call = call) ∧
    store = (r.world.server.store.handle call).1

theorem kept_of_eq {store : LeaseStore} (h : store = r.world.server.store) : r.Kept store :=
  ⟨.read, .inl rfl, h⟩

theorem store_foldl_suffer (due : List (Nat × Action))
    (h : ∀ entry ∈ due, ∀ change, entry.2 ≠ .update change) (r : Run) :
    (due.foldl (fun r entry => r.suffer entry.2) r).world.server.store =
      r.world.server.store := by
  induction due generalizing r with
  | nil => rfl
  | cons entry due ih =>
    have hsuffer : (r.suffer entry.2).world.server.store = r.world.server.store := by
      have hentry := h entry List.mem_cons_self
      cases haction : entry.2 with
      | update change => exact absurd haction (hentry change)
      | shutdown | dropSender | setUnavailable => rfl
    rw [List.foldl_cons, ih fun entry hentry => h entry (List.mem_cons_of_mem _ hentry)]
    exact hsuffer

/-- The clock goes on while nobody else changes the lease. -/
theorem arrive_undisturbed (hagenda : ∀ entry ∈ r.agenda, ∀ change, entry.2 ≠ .update change)
    (time : Nat) : ∃ signal server log, server.store = r.world.server.store ∧
    r.arrive time =
      { r with
        time := time
        turn := .opening
        signal := signal
        agenda := r.agenda.filter (time < ·.1)
        world := World.renewAll { r.world with time := time, server := server }
        log := log } := by
  let r₀ : Run :=
    { r with
      time := time
      turn := .opening
      world := { r.world with time := time }
      agenda := r.agenda.filter (time < ·.1) }
  have hstore := store_foldl_suffer (r.agenda.filter (·.1 ≤ time))
    (fun entry hentry => hagenda entry (List.mem_of_mem_filter hentry)) r₀
  obtain ⟨signal, server, log, hsuffer⟩ := foldl_suffer_cases r₀ (r.agenda.filter (·.1 ≤ time))
  rw [hsuffer] at hstore
  refine ⟨signal, server, log, hstore, ?_⟩
  unfold arrive
  dsimp only
  rw [hsuffer]

theorem Abides.deals (h : r.Abides r') : r.Deals r.Kept r'.phase r'.world := by
  cases h with
  | serve server hstore => exact .serve server (kept_of_eq hstore) rfl rfl
  | land q hq =>
    exact .serve { r.world.server with store := (r.world.server.store.handle q.call).1 }
      ⟨q.call, .inr ⟨q, hq, rfl⟩, rfl⟩ rfl rfl
  | behave | destine => exact deals_stay _ r
  | tick limit htick hagenda =>
    refine (advances_of_tick htick).deals (isOver_of_tick htick) fun time => ?_
    obtain ⟨signal, server, log, hstore, heq⟩ := arrive_undisturbed hagenda time
    exact ⟨signal, server, log, kept_of_eq hstore, heq⟩

/-- What has reached the server is one request that was sent, if any. -/
theorem Kept.touches (h : r.Kept world.server.store) (hsent : world.sent = r.world.sent) :
    ∃ call, (call = .read ∨ ∃ q ∈ r.world.sent, q.call = call) ∧ r.world.Touches call world := by
  obtain ⟨call, hcall, hstore⟩ := h
  exact ⟨call, hcall, .inr hstore, .inl hsent⟩

/-! ### Dates -/

/-- Every replacement that was sent, or will be sent by the renewals or the acquisition, names a
version that the store has handed out. -/
structure Dates (e : Elector) (phase : Phase) (world : World) : Prop where
  dating : world.Dating e
  seeking : ∀ activity, phase = .electing activity →
    ∃ p, activity = .acquiring 0 none p ∧ p.Proposes world.server.store.Dated

theorem Dates.kept (h : Dates e r.phase r.world) (hkept : r.Kept world.server.store)
    (hsent : world.sent = r.world.sent) (hcandidates : world.candidates = r.world.candidates) :
    Dates e r.phase world := by
  obtain ⟨call, hcall, htouches⟩ := hkept.touches hsent
  refine ⟨h.dating.touches htouches ?_ (h.dating.renewals.congr hcandidates),
    fun activity hphase => ?_⟩
  · rcases hcall with rfl | ⟨q, hq, rfl⟩
    · exact LeaseStore.dated_read _
    · exact h.dating.sent q hq
  · obtain ⟨p, rfl, hp⟩ := h.seeking activity hphase
    exact ⟨p, rfl, hp.mono fun _ => htouches.dated⟩

/-- Nothing that happens spoils the dates. -/
theorem Deals.dates (hdeals : r.Deals r.Kept phase world) (hbound : Bound e r.phase r.world)
    (h : Dates e r.phase r.world) : Dates e phase world := by
  have hidle : ∀ {phase : Phase} {world : World}, world.Dating e →
      (∀ activity, phase ≠ .electing activity) → Dates e phase world :=
    fun hdating hactivity => ⟨hdating, fun activity hphase => absurd hphase (hactivity activity)⟩
  cases hdeals with
  | idle hworld hled hactivity hclosing hover =>
    rw [hworld]
    refine ⟨h.dating, fun activity hphase => ?_⟩
    exact h.seeking activity ((hactivity activity (.inl hphase)).symm.trans hphase)
  | serve server hserver hphase hworld =>
    rw [hphase, hworld]
    exact h.kept hserver rfl rfl
  | wait server time hserver hphase hrunning hworld =>
    rw [hphase, hworld]
    have hkept : Dates e r.phase { r.world with time := time, server := server } :=
      h.kept hserver rfl rfl
    obtain ⟨hdating, hdated⟩ := hkept.dating.renewAll
    refine ⟨hdating, fun activity hactivity => ?_⟩
    obtain ⟨p, rfl, hp⟩ := hkept.seeking activity hactivity
    exact ⟨p, rfl, hp.mono hdated⟩
  | seek hphase hsettle hnext =>
    obtain ⟨c, hc, rfl⟩ := hbound.candidate
    obtain ⟨p, rfl, hp⟩ := h.seeking _ hphase
    have hseeks := World.seeks_of_settle hc hsettle
    obtain ⟨call, hcall, htouches⟩ := hseeks.touches hp
    have hdated : r.world.server.store.Dated call := by
      rcases hcall with rfl | hdated
      · exact LeaseStore.dated_read _
      · exact hdated
    have hdating := h.dating.touches htouches hdated (hseeks.proposing h.dating.renewals hc)
    rcases hnext with ⟨next, rfl, rfl⟩ | ⟨-, rfl⟩ | rfl
    · obtain ⟨-, p', rfl, hp'⟩ := hseeks.goesOn hp (World.admits_dated h.dating.coherent _)
      refine ⟨hdating, fun activity hactivity => ?_⟩
      cases hactivity
      exact ⟨p', rfl, hp'.mono fun _ => htouches.dated⟩
    · exact hidle hdating (fun _ h => nomatch h)
    · exact hidle hdating (fun _ h => nomatch h)
  | drop hphase hworld hnext =>
    rw [hworld, hnext]
    have htouches :=
      World.touches_of_eq .read (r.world.dropGuard_server 0) (r.world.dropGuard_sent 0)
    exact hidle
      (h.dating.touches htouches (LeaseStore.dated_read _) (h.dating.renewals.dropGuard 0))
      (fun _ h => nomatch h)
  | begin hphase hbegin hnext =>
    rw [hnext]
    have hrenewals := h.dating.renewals.beginRelease hbegin
    obtain ⟨c, g, -, -, -, rfl⟩ := World.beginRelease_cases hbegin
    exact hidle (h.dating.touches (World.touches_of_eq .read rfl rfl) (LeaseStore.dated_read _)
      hrenewals) (fun _ h => nomatch h)
  | handBack hphase hsettle hnext =>
    obtain ⟨c, hc, rfl⟩ := hbound.candidate
    obtain ⟨release, due, rfl, hcall⟩ := hbound.release hphase
    have hreturns := World.returns_of_settle hc hsettle
    have hdated : r.world.server.store.Dated release.call := by
      rcases hcall with hread | ⟨now, hclears⟩
      · rw [hread]
        exact LeaseStore.dated_read _
      · rw [hclears]
        exact LeaseStore.dated_patch _ _
    have hdating := h.dating.touches hreturns.touches hdated (hreturns.proposing h.dating.renewals)
    rcases hnext with ⟨next, -, rfl⟩ | ⟨-, rfl⟩
    · exact hidle hdating (fun _ h => nomatch h)
    · exact hidle hdating (fun _ h => nomatch h)

theorem dates_start {election : LeaderElection} (helection : m.election = some election)
    (hcoherent : s.server.store.Coherent) :
    Dates election.elector (start m s).phase (start m s).world := by
  have hdating : ∀ servers, (blank m s servers).world.Dating election.elector := by
    refine fun servers => ⟨hcoherent, fun c hc => ?_, fun _ hq => by cases hq⟩
    have hmem : c ∈ [(⟨election.elector, false, none⟩ : Candidate)] := by
      simpa [blank, World.initial, helection] using hc
    rw [List.mem_singleton.1 hmem]
    exact ⟨rfl, fun _ hg => by cases hg⟩
  obtain ⟨error, -, heq⟩ | ⟨servers, -, ⟨-, heq⟩ | ⟨-, ⟨election, -, heq⟩ | ⟨hnone, -⟩⟩⟩ :=
    start_cases m s
  · rw [heq]
    exact ⟨hdating [], fun _ h => by cases h⟩
  · rw [heq]
    exact ⟨hdating [], fun _ h => by cases h⟩
  · rw [heq]
    refine ⟨hdating servers, fun activity h => ?_⟩
    cases h
    exact ⟨_, rfl, Attempt.proposes_reading _ _⟩
  · cases hnone.symm.trans helection

section Alone

variable {election : LeaderElection} (helection : m.election = some election)
  (hcoherent : s.server.store.Coherent)

include helection in
theorem Undisturbed.bound (h : (start m s).Undisturbed r) :
    Bound election.elector r.phase r.world :=
  Course.bound helection (Undisturbed.course h)

include helection hcoherent in
theorem Undisturbed.dates (h : (start m s).Undisturbed r) :
    Dates election.elector r.phase r.world := by
  induction h with
  | refl => exact dates_start helection hcoherent
  | tail hb habides ih => exact habides.deals.dates (Undisturbed.bound helection hb) ih

end Alone

/-! ### Who holds the lease -/

/-- The lease of a manager that has led: it is the elector's, until it is given back for good. -/
structure Tenancy (e : Elector) (phase : Phase) (world : World) : Prop where
  owned : phase.isClosing = false → world.server.store.OwnedBy e.identity
  freed : world.server.store.OwnedBy e.identity ∨ world.Freed e

theorem tenancy_of_owned (h : world.server.store.OwnedBy e.identity) : Tenancy e phase world :=
  ⟨fun _ => h, .inl h⟩

theorem Tenancy.stored (h : Tenancy e phase world) : ∃ l, world.server.store.lease = some l := by
  rcases h.freed with ⟨l, hl, -⟩ | ⟨⟨l, hl, -⟩, -⟩
  · exact ⟨l, hl⟩
  · exact ⟨l, hl⟩

/-- What was sent reads or claims the lease, until the lease is given back. -/
theorem Bound.reads_or_claims (h : Bound e phase world) (hclosing : phase.isClosing = false)
    {q : Sent} (hq : q ∈ world.sent) : q.call = .read ∨ q.call.Claims e.identity := by
  rcases h.sent q hq with hread | hclaims | ⟨hc, -⟩
  · exact .inl hread
  · exact .inr hclaims
  · rw [hclosing] at hc
    cases hc

theorem Bound.asks (h : Bound e phase world) {q : Sent} (hq : q ∈ world.sent) :
    world.Asks e q.call := by
  rcases h.sent q hq with hread | hclaims | ⟨-, hclears⟩
  · exact .inl hread
  · exact .inr (.inl ⟨hclaims, q, hq, rfl⟩)
  · exact .inr (.inr hclears)

/-- While the lease is given back, there is nothing to renew. -/
theorem Bound.renewAll_eq_self (h : Bound e phase world) {activity : Activity}
    (hphase : phase = .releasing activity) : world.renewAll = world := by
  obtain ⟨-, c, hc, hover⟩ := h.releasing activity hphase
  refine World.renewAll_eq_self fun i d g hd hg => ?_
  have hi : i < 1 := h.sole ▸ (List.getElem?_eq_some_iff.1 hd).1
  obtain rfl : i = 0 := Nat.lt_one_iff.1 hi
  obtain rfl : c = d := Option.some.inj (hc.symm.trans hd)
  exact hover g hg

/-- Once the lease is given back, whatever happens is at most a request that claims nothing new. -/
theorem Deals.closing (hdeals : r.Deals r.Kept phase world) (hbound : Bound e r.phase r.world)
    (hclosing : r.phase.isClosing = true) :
    phase.isClosing = true ∧ ∃ call, r.world.Asks e call ∧ r.world.Touches call world := by
  have hkept : ∀ {world : World}, r.Kept world.server.store → world.sent = r.world.sent →
      ∃ call, r.world.Asks e call ∧ r.world.Touches call world := by
    intro world h hsent
    obtain ⟨call, hcall, htouches⟩ := h.touches hsent
    refine ⟨call, ?_, htouches⟩
    rcases hcall with rfl | ⟨q, hq, rfl⟩
    · exact .inl rfl
    · exact hbound.asks hq
  cases hdeals with
  | idle hworld hled hactivity hsame hover =>
    refine ⟨?_, .read, .inl rfl, ?_⟩
    · rwa [hsame hclosing]
    · exact World.touches_of_eq .read (by rw [hworld]) (by rw [hworld])
  | serve server hserver hphase hworld =>
    refine ⟨by rwa [hphase], ?_⟩
    rw [hworld]
    exact hkept hserver rfl
  | wait server time hserver hphase hrunning hworld =>
    refine ⟨by rwa [hphase], ?_⟩
    have hreleasing : ∃ activity, r.phase = .releasing activity := by
      unfold Phase.isClosing at hclosing
      split at hclosing
      · exact ⟨_, ‹_›⟩
      · rename_i hover
        exact absurd (hphase.trans hover) (hrunning none)
      · cases hclosing
    obtain ⟨activity, hactivity⟩ := hreleasing
    have hstill : Bound e r.phase { r.world with time := time, server := server } :=
      hbound.congr rfl rfl id (fun _ _ => rfl) fun _ => rfl
    rw [hworld, hstill.renewAll_eq_self hactivity]
    exact hkept hserver rfl
  | seek hphase | drop hphase | begin hphase =>
    rw [hphase] at hclosing
    cases hclosing
  | handBack hphase hsettle hnext =>
    refine ⟨?_, ?_⟩
    · rcases hnext with ⟨next, -, rfl⟩ | ⟨-, rfl⟩
      · rfl
      · rfl
    · obtain ⟨c, hc, rfl⟩ := hbound.candidate
      obtain ⟨release, due, rfl, hcall⟩ := hbound.release hphase
      exact ⟨release.call, hcall.imp_right .inr, (World.returns_of_settle hc hsettle).touches⟩

/-- **The lease is the elector's until it is given back.** -/
theorem Deals.tenancy (hdeals : r.Deals r.Kept phase world) (hbound : Bound e r.phase r.world)
    (hdating : r.world.Dating e) (hled : r.phase.isUnled = false) (h : Tenancy e r.phase r.world) :
    Tenancy e phase world := by
  cases hclosing : r.phase.isClosing with
  | true =>
    obtain ⟨hclosing', call, hcall, htouches⟩ := hdeals.closing hbound hclosing
    refine ⟨fun hc => ?_, hdating.owned_or_freed h.freed htouches hcall⟩
    rw [hclosing'] at hc
    cases hc
  | false =>
    have howned := h.owned hclosing
    have hkept : ∀ {world : World}, r.Kept world.server.store → world.sent = r.world.sent →
        world.server.store.OwnedBy e.identity := by
      intro world hkept hsent
      obtain ⟨call, hcall, htouches⟩ := hkept.touches hsent
      refine htouches.ownedBy ?_ howned
      rcases hcall with rfl | ⟨q, hq, rfl⟩
      · exact .inl rfl
      · exact hbound.reads_or_claims hclosing hq
    refine tenancy_of_owned ?_
    cases hdeals with
    | idle hworld => rwa [hworld]
    | serve server hserver hphase hworld =>
      rw [hworld]
      exact hkept hserver rfl
    | wait server time hserver hphase hrunning hworld =>
      have hclaiming := World.claiming_renewAll (e := e)
        (w := { r.world with time := time, server := server }) (hbound.renewals.congr rfl)
      rw [hworld]
      exact hclaiming.owned (hkept hserver rfl)
    | seek hphase =>
      rw [hphase] at hled
      cases hled
    | drop hphase hworld hnext =>
      rw [hworld, World.dropGuard_server]
      exact howned
    | begin hphase hbegin hnext =>
      obtain ⟨c, g, -, -, -, rfl⟩ := World.beginRelease_cases hbegin
      exact howned
    | handBack hphase =>
      rw [hphase] at hclosing
      cases hclosing

section Alone

variable {election : LeaderElection} (helection : m.election = some election)
  (hcoherent : s.server.store.Coherent)

include helection hcoherent

/-- A manager that leads, or is about to stop after it has led, has a tenancy. -/
theorem Undisturbed.tenancy_of_hasLed (h : (start m s).Undisturbed r)
    (hled : r.phase.hasLed = true) : Tenancy election.elector r.phase r.world := by
  induction h with
  | refl =>
    obtain ⟨error, -, heq⟩ | ⟨servers, -, ⟨-, heq⟩ | ⟨-, ⟨election, -, heq⟩ | ⟨hnone, -⟩⟩⟩ :=
      start_cases m s
    case inr.inr.inr => exact nomatch hnone.symm.trans helection
    all_goals
      rw [heq] at hled
      cases hled
  | @tail a c ha habides ih =>
    rcases habides.happens.musters_or_quiet with hmusters | hquiet
    · obtain ⟨activity, world, hphase, -⟩ := id hmusters
      obtain ⟨election', phase, helection', hseeking⟩ := (Undisturbed.course ha).seeking hphase
      obtain rfl := Option.some.inj (helection.symm.trans helection')
      exact tenancy_of_owned (hmusters.wins hseeking).stored
    · have hled' := hquiet.hasLed hled
      exact habides.deals.tenancy (Undisturbed.bound helection ha)
        (Undisturbed.dates helection hcoherent ha).dating (Phase.isUnled_of_hasLed hled') (ih hled')

/-- **A manager that has led has a tenancy from then on.** -/
theorem Undisturbed.tenancy (hb : (start m s).Undisturbed b) (hled : b.phase.hasLed = true)
    (h : b.Undisturbed r) : Tenancy election.elector r.phase r.world := by
  induction h with
  | refl => exact Undisturbed.tenancy_of_hasLed helection hcoherent hb hled
  | @tail a c hba habides ih =>
    have ha : (start m s).Undisturbed a := hb.trans hba
    exact habides.deals.tenancy (Undisturbed.bound helection ha)
      (Undisturbed.dates helection hcoherent ha).dating
      (Course.led (Undisturbed.course hba) (Phase.isUnled_of_hasLed hled)) ih

omit hcoherent in
/-- A patch is sent only by a manager that has led. -/
theorem Undisturbed.led_of_patch (h : (start m s).Undisturbed r) {q : Sent} (hq : q ∈ r.world.sent)
    {change : Lease.SpecPatch} (hpatch : q.call = .patch change) :
    ∃ b, (start m s).Undisturbed b ∧ b.phase.hasLed = true ∧ b.Undisturbed r := by
  induction h with
  | refl =>
    rw [sent_start] at hq
    cases hq
  | @tail a c ha habides ih =>
    rcases habides.deals.patch (Undisturbed.bound helection ha) hq hpatch with
      hq | ⟨⟨due, hclears⟩, -⟩
    · obtain ⟨b, hb, hled, hba⟩ := ih hq
      exact ⟨b, hb, hled, hba.tail habides⟩
    · exact ⟨a, ha, by rw [hclears]; rfl, .single habides⟩

omit hcoherent in
/-- A run in which a patch was sent gives the lease back, or is over without a failure. -/
theorem Undisturbed.isClosing_of_patch (h : (start m s).Undisturbed r) {q : Sent}
    (hq : q ∈ r.world.sent) {change : Lease.SpecPatch} (hpatch : q.call = .patch change) :
    r.phase.isClosing = true ∧ ∃ now, q.call = .patch (Release.clearance now) := by
  rcases (Undisturbed.bound helection h).sent q hq with hread | hclaims | hclears
  · rw [hpatch] at hread
    cases hread
  · rw [hpatch] at hclaims
    cases hclaims
  · exact hclears

/-- A lease that was given back for good stays so. -/
theorem Undisturbed.freed (hb : (start m s).Undisturbed b) (hclosing : b.phase.isClosing = true)
    (hfreed : b.world.Freed election.elector) (h : b.Undisturbed r) :
    r.world.Freed election.elector := by
  suffices r.phase.isClosing = true ∧ r.world.Freed election.elector from this.2
  induction h with
  | refl => exact ⟨hclosing, hfreed⟩
  | @tail a c hba habides ih =>
    have ha : (start m s).Undisturbed a := hb.trans hba
    obtain ⟨hclosing', call, hcall, htouches⟩ :=
      habides.deals.closing (Undisturbed.bound helection ha) ih.1
    exact ⟨hclosing', ih.2.touches
      (Undisturbed.dates helection hcoherent ha).dating.coherent htouches hcall⟩

/-- **What was sent before is refused** once the server has handled the patch, whatever happens. -/
theorem Undisturbed.refused (hb : (start m s).Undisturbed b) (habides : b.Abides c) {q : Sent}
    (hq : q ∈ c.world.sent) {change : Lease.SpecPatch} (hpatch : q.call = .patch change)
    (hhandled : c.world.server.store = (b.world.server.store.handle q.call).1)
    (h : c.Undisturbed r) : r.world.Freed election.elector := by
  have hc : (start m s).Undisturbed c := hb.tail habides
  obtain ⟨hclosing, now, hclears⟩ := Undisturbed.isClosing_of_patch helection hc hq hpatch
  have hbound := Undisturbed.bound helection hb
  -- The patch was sent before, or it is sent in this step; either way the manager has led.
  obtain ⟨hclosing', d, hd, hled, hdb⟩ : b.phase.isClosing = true ∧ ∃ d,
      (start m s).Undisturbed d ∧ d.phase.hasLed = true ∧ d.Undisturbed b := by
    rcases habides.deals.patch hbound hq hpatch with hq | ⟨⟨due, hphase⟩, -⟩
    · exact ⟨(Undisturbed.isClosing_of_patch helection hb hq hpatch).1,
        Undisturbed.led_of_patch helection hb hq hpatch⟩
    · exact ⟨by rw [hphase]; rfl, b, hb, by rw [hphase]; rfl, .refl⟩
  obtain ⟨l, hstored⟩ := (Undisturbed.tenancy helection hcoherent hd hled hdb).stored
  obtain ⟨-, call, hcall, htouches⟩ := habides.deals.closing hbound hclosing'
  refine Undisturbed.freed helection hcoherent hc hclosing ?_ h
  exact (Undisturbed.dates helection hcoherent hb).dating.freed hstored (hclears ▸ hhandled)
    fun q hq => htouches.claims_sent hcall hq

end Alone

/-! ### Runs that are served normally -/

section Alone

variable {election : LeaderElection} (helection : m.election = some election)
  (hcoherent : s.server.store.Coherent)

include helection hcoherent

end Alone

/-! ### The hand-back -/

end Run

end ControllerManager.Manager
