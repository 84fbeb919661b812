import ControllerManager.Proofs.Startup.Order
import ControllerManager.Proofs.Topology.Choice

/-!
# What the topology decides

The stages behind the construction of a manager do not look at what it is bound to. So a start on
the base cluster and one on a virtual workspace lead to managers that differ in their binding only:
the kind, the address that they were built for, and the connection of the controllers. The election
takes place in the base cluster for both.

## Main definitions

* `Manager.Binding`, `Manager.rebind` — what a manager is bound to, and the manager with another
  binding.
* `Manager.Oblivious` — a registration that does not look at the binding.
* `Startup.Course.Yields` — a course that leads to a result.
* `Startup.Sequencer.furnish` — the stages behind the construction of a manager.

## Main results

* `Startup.Sequencer.oblivious_furnish` — these stages do not look at the binding.
* `Startup.Sequencer.exists_furnish_of_prepare` — a start constructs a manager and furnishes it.
* `Startup.Sequencer.topology_decides_binding`.
-/

namespace ControllerManager

namespace Manager

/-- What a manager is bound to, with its election. -/
structure Binding where
  kind : Kind
  host : String
  workload : Cluster.Config
  election : Option LeaderElection

/-- The manager with another binding. -/
def rebind (m : Manager) (b : Binding) : Manager :=
  { m with kind := b.kind, host := b.host, workload := b.workload, election := b.election }

variable (m : Manager) (b : Binding)

@[simp] theorem rebind_scheme : (m.rebind b).scheme = m.scheme := rfl

@[simp] theorem rebind_controllers : (m.rebind b).controllers = m.controllers := rfl

@[simp] theorem rebind_webhooks : (m.rebind b).webhooks = m.webhooks := rfl

@[simp] theorem rebind_healthz : (m.rebind b).healthz = m.healthz := rfl

@[simp] theorem rebind_readyz : (m.rebind b).readyz = m.readyz := rfl

/-! ### Registrations that do not look at the binding -/

/-- A registration that does not look at the binding: with another one it succeeds as well, and
leads to the same manager but for the binding. -/
def Oblivious (step : Manager → Except Error Manager) : Prop :=
  ∀ m b, step (m.rebind b) = (step m).map (·.rebind b)

theorem Oblivious.bind {f g : Manager → Except Error Manager} (hf : Oblivious f)
    (hg : Oblivious g) : Oblivious fun m => f m >>= g := by
  intro m b
  dsimp only
  rw [hf]
  cases f m with
  | error e => rfl
  | ok m' => exact hg m' b

theorem oblivious_addController (name : String) (controller : Controller) :
    Oblivious (·.addController name controller) := by
  intro m b
  simp only [addController, rebind_controllers]
  cases m.controllers.add? name controller <;> rfl

theorem addControllers_rebind (m : Manager) (b : Binding) (members : List (String × Controller)) :
    (m.rebind b).addControllers members =
      ((m.addControllers members).1.rebind b, (m.addControllers members).2) := by
  induction members generalizing m with
  | nil => rfl
  | cons member rest ih =>
    obtain ⟨name, controller⟩ := member
    have hstep : (m.rebind b).addController name controller =
        (m.addController name controller).map (·.rebind b) := oblivious_addController _ _ m b
    simp only [addControllers, hstep]
    cases m.addController name controller with
    | error e => rfl
    | ok m' => exact ih m'

theorem oblivious_addWebhook (path name : String) (handler : Admission.Handler) :
    Oblivious (·.addWebhook path name handler) := by
  intro m b
  simp only [addWebhook, rebind_webhooks]
  split_ifs
  · rfl
  · cases m.webhooks.insert? path ⟨name, handler⟩ <;> rfl

theorem oblivious_addHealthz (name : String) (health : Probe.Health) :
    Oblivious (·.addHealthz name health) := by
  intro m b
  simp only [addHealthz, rebind_healthz]
  cases m.healthz.insert? name health <;> rfl

theorem oblivious_addReadyz (name : String) (health : Probe.Health) :
    Oblivious (·.addReadyz name health) := by
  intro m b
  simp only [addReadyz, rebind_readyz]
  cases m.readyz.insert? name health <;> rfl

/-! ### The construction -/

/-- The manager that options give, with which nothing is registered, before it is bound. -/
def unbound (o : Options) : Manager where
  kind := .standard
  host := ""
  workload := o.base
  scheme := o.scheme
  metricsAddress := o.metricsAddress
  healthProbeAddress := o.healthProbeAddress
  webhookAddress := o.webhookAddress
  webhookCertDir := o.webhookCertDir
  grace := o.grace
  recordsMetrics := o.recordsMetrics
  election := none
  controllers := .empty
  webhooks := .empty
  healthz := .empty
  readyz := .empty
  defaults := .standard

variable {o : Options} {topology : Topology} {m : Manager} {election : Option LeaderElection}

/-- The topology decides what a manager is bound to, and nothing else. -/
theorem eq_rebind_of_build (h : build topology o = .ok m) :
    ∃ kind workload host election, binding topology o.base = .ok (kind, workload, host) ∧
      electionOf o = .ok election ∧ m = (unbound o).rebind ⟨kind, host, workload, election⟩ := by
  unfold build at h
  rcases hbinding : binding topology o.base with error | ⟨kind, workload, host⟩ <;>
    simp only [hbinding, bind, Except.bind] at h
  · cases h
  · split at h
    · cases h
    · rcases helection : electionOf o with error | election <;> rw [helection] at h
      · cases h
      · cases h
        exact ⟨kind, workload, host, election, rfl, rfl, rfl⟩

theorem electionOf_of_false (h : o.leaderElection = false) : electionOf o = .ok none := by
  simp [electionOf, h]

/-- The election that options ask for takes place in the base cluster. -/
theorem exists_of_electionOf (h : electionOf o = .ok election) (hleads : o.leaderElection = true) :
    ∃ ns, Election.pickNamespace o.leaderElectionNamespace o.inClusterNamespace = .ok ns ∧
      election = some ⟨⟨o.identity, o.leaseName, ns, .standard⟩, o.base.url.toText⟩ := by
  unfold electionOf at h
  rcases hns : Election.pickNamespace o.leaderElectionNamespace o.inClusterNamespace with
    error | ns <;>
    simp only [hleads, Bool.not_true, Bool.false_eq_true, if_false, hns, bind, Except.bind] at h
  · cases h
  · split at h
    · cases h
    · cases h
      exact ⟨ns, rfl, rfl⟩

theorem binding_standalone (base : Cluster.Config) :
    binding .standalone base = .ok (.standard, base, base.url.toText) := rfl

theorem binding_virtualWorkspace {endpoint base workload : Cluster.Config} {host host' : String}
    {kind : Kind}
    (h : binding (.virtualWorkspace endpoint host) base = .ok (kind, workload, host')) :
    kind = .clusterAware ∧ host' = host ∧
      ∃ url, wildcardUrl endpoint.url = .ok url ∧ workload = { endpoint with url := url } := by
  unfold binding at h
  dsimp only at h
  split at h
  case h_1 url hurl =>
    cases h
    exact ⟨rfl, rfl, url, hurl, rfl⟩
  case h_2 => cases h

end Manager

namespace Topology

open Cluster

variable {σ : Type} {surface : Surface (StateM σ)} {base endpoint : Config}
  {exportName host : String}

/-- An address that is of use is the first one that was advertised. -/
theorem exists_of_firstUrl {lookup : Except Error (Option (List String))} {uri : Net.Uri}
    (h : (firstUrl lookup).mapError (Fault.toError exportName) = .ok (host, uri)) :
    ∃ rest, lookup = .ok (some (host :: rest)) ∧ Net.Uri.parse host = .ok uri := by
  rcases lookup with error | _ | _ | ⟨url, rest⟩
  · cases h
  · cases h
  · cases h
  · unfold firstUrl at h
    dsimp only at h
    rcases huri : Net.Uri.parse url with fault | uri' <;> rw [huri] at h
    · cases h
    · dsimp only at h
      split_ifs at h
      · cases h
      · cases h
        exact ⟨rest, rfl, huri⟩

/-- The host of a virtual workspace is the first address that the export advertises, and its
connection is the base connection with that address. -/
theorem advertised_of_resolve {state : σ}
    (h : ((resolve surface base exportName).run state).1 = .ok (.virtualWorkspace endpoint host)) :
    ∃ asked rest uri, (surface.hasGroup exportGroup).run state = (.ok true, asked) ∧
      ((surface.workspaceUrls exportName).run asked).1 = .ok (some (host :: rest)) ∧
      Net.Uri.parse host = .ok uri ∧ endpoint = { base with url := uri } := by
  rcases hgroup : (surface.hasGroup exportGroup).run state with ⟨group, asked⟩
  by_cases hyes : group = .ok true
  · subst hyes
    rw [run_resolve_of_eq surface base exportName hgroup] at h
    by_cases hname : exportName = ""
    · subst hname
      cases h
    · rw [run_advertisedUrl_of_ne surface exportName hname] at h
      rcases hurl : (firstUrl ((surface.workspaceUrls exportName).run asked).1).mapError
        (Fault.toError exportName) with error | ⟨host', uri⟩ <;> rw [hurl] at h
      · cases h
      · cases h
        obtain ⟨rest, hlookup, huri⟩ := exists_of_firstUrl hurl
        exact ⟨asked, rest, uri, rfl, hlookup, huri, rfl⟩
  · rw [run_resolve_of_ne surface base exportName hgroup hyes] at h
    cases h

end Topology

namespace Webhook.Resource

open Manager

theorem oblivious_register (r : Resource) : Oblivious r.register := by
  intro m b
  unfold register
  rw [rebind_scheme]
  split_ifs
  · exact oblivious_addWebhook r.path r.name r.handler m b
  · rfl

end Webhook.Resource

namespace Webhook.Collaborator

open Manager

theorem registerAll_rebind {cs : List Collaborator} (h : ∀ c ∈ cs, Oblivious c.register)
    (m : Manager) (b : Binding) :
    registerAll (m.rebind b) cs = ((registerAll m cs).1.rebind b, (registerAll m cs).2) := by
  induction cs generalizing m with
  | nil => rfl
  | cons c rest ih =>
    obtain ⟨hfirst, hrest⟩ := List.forall_mem_cons.1 h
    simp only [registerAll, hfirst m b]
    cases c.register m with
    | error e => rfl
    | ok m' => simp only [Except.map, ih hrest, rebind_webhooks]

end Webhook.Collaborator

namespace Startup

open Cluster Manager

/-! ### Courses that lead to a result -/

namespace Course

variable {α β : Type}

/-- A course leads to a result from some journal on. -/
def Yields (c : Course α) (a : α) : Prop := ∃ j, (c.run.run j).1 = .ok a

/-- A sequence of two courses leads to a result through both of them. -/
theorem Yields.bind {c : Course α} {k : α → Course β} {b : β} (h : (c >>= k).Yields b) :
    ∃ a, c.Yields a ∧ (k a).Yields b := by
  obtain ⟨j, hj⟩ := h
  rw [run_bind] at hj
  rcases hrun : c.run.run j with ⟨halt | a, j'⟩ <;> rw [hrun] at hj
  · cases hj
  · exact ⟨a, ⟨j, by rw [hrun]⟩, j', hj⟩

theorem Yields.settle {stage : Stage} {x : Except Error α} {a : α}
    (h : (settle stage x).Yields a) : x = .ok a := by
  obtain ⟨j, hj⟩ := h
  cases x with
  | error e => cases hj
  | ok a' =>
    cases hj
    rfl

theorem Yields.pure {a b : α} (h : (pure a : Course α).Yields b) : a = b := by
  obtain ⟨j, hj⟩ := h
  cases hj
  rfl

end Course

open Course

theorem oblivious_ofControllers (set : ControllerSet) :
    Oblivious (Registrar.ofControllers set) := by
  intro m b
  simp only [Registrar.ofControllers, addControllers_rebind]
  rcases m.addControllers set.members.entries with ⟨m', _ | error⟩ <;> rfl

namespace Sequencer

variable (s : Sequencer)

/-- The manager with the webhooks, where they are turned on. -/
def withWebhooks (m : Manager) : Except Error Manager :=
  if s.settings.enableWebhooks then
    match (Webhook.Collaborator.registerAll m s.collaborators.webhooks).2.2 with
    | none => .ok (Webhook.Collaborator.registerAll m s.collaborators.webhooks).1
    | some error => .error error
  else .ok m

/-- The manager with one check at each endpoint. -/
def withProbes (m : Manager) : Except Error Manager :=
  m.addHealthz "healthz" .passing >>= (·.addReadyz "readyz" .passing)

/-- The values of the operational defaults. -/
def defaultValues : Except Error Defaults.Values :=
  ((Defaults.Resolver.ofSource s.environment).withOverrides s.settings.overrides).resolve.1

/-- The stages behind the construction of a manager. -/
def furnish (m : Manager) : Except Error Manager := do
  let values ← s.defaultValues
  let m ← s.collaborators.registrar (m.setDefaults values)
  withProbes (← s.withWebhooks m)

theorem oblivious_withWebhooks (h : ∀ c ∈ s.collaborators.webhooks, Oblivious c.register) :
    Oblivious s.withWebhooks := by
  intro m b
  simp only [withWebhooks, Webhook.Collaborator.registerAll_rebind h]
  split_ifs
  · rcases Webhook.Collaborator.registerAll m s.collaborators.webhooks with
      ⟨m', accepted, _ | error⟩ <;> rfl
  · rfl

theorem oblivious_withProbes : Oblivious withProbes :=
  (oblivious_addHealthz _ _).bind (oblivious_addReadyz _ _)

/-- Nothing that is registered in a start looks at the binding. -/
structure LooksAway : Prop where
  registrar : Oblivious s.collaborators.registrar
  webhooks : ∀ c ∈ s.collaborators.webhooks, Oblivious c.register

/-- What a set of controllers and webhooks for kinds register does not look at the binding. -/
theorem looksAway_of_eq {s : Sequencer} {set : ControllerSet} {rs : List Webhook.Resource}
    (hset : s.collaborators.registrar = .ofControllers set)
    (hwebhooks : s.collaborators.webhooks = rs.map Webhook.Resource.collaborator) :
    s.LooksAway where
  registrar := by
    rw [hset]
    exact oblivious_ofControllers set
  webhooks c hc := by
    rw [hwebhooks] at hc
    obtain ⟨r, -, rfl⟩ := List.mem_map.1 hc
    exact r.oblivious_register

/-- **The stages behind the construction do not look at the binding**, if nothing that is registered
does. -/
theorem oblivious_furnish (h : s.LooksAway) : Oblivious s.furnish := by
  intro m b
  unfold furnish
  cases s.defaultValues with
  | error e => rfl
  | ok values =>
    exact (h.registrar.bind ((s.oblivious_withWebhooks h.webhooks).bind oblivious_withProbes))
      (m.setDefaults values) b

/-! ### The manager of a start -/

/-- The options that a start builds its manager with. -/
def options (scheme : Scheme) : Options :=
  .ofSettings s.settings scheme s.inClusterNamespace s.identity s.recordsMetrics

theorem built_of_begin {scheme : Scheme} (h : s.begin.Yields scheme) :
    (Scheme.buildFrom .empty s.collaborators.schemeBuilders).1 = .ok scheme := by
  obtain ⟨-, -, h⟩ := Yields.bind h
  obtain ⟨-, -, h⟩ := Yields.bind h
  obtain ⟨scheme', hbuilt, h⟩ := Yields.bind h
  obtain ⟨-, -, h⟩ := Yields.bind h
  obtain ⟨-, -, h⟩ := Yields.bind h
  rw [← h.pure]
  exact hbuilt.settle

theorem build_of_buildManager {scheme : Scheme} {r : Topology.Resolution} {m : Manager}
    (h : (s.buildManager scheme r).Yields m) :
    ∃ topology, r.result = .ok topology ∧ Manager.build topology (s.options scheme) = .ok m := by
  obtain ⟨-, -, h⟩ := Yields.bind h
  obtain ⟨topology, htopology, h⟩ := Yields.bind h
  obtain ⟨-, -, h⟩ := Yields.bind h
  obtain ⟨built, hbuilt, h⟩ := Yields.bind h
  obtain ⟨-, -, h⟩ := Yields.bind h
  rw [← h.pure]
  exact ⟨topology, htopology.settle, hbuilt.settle⟩

theorem defaultValues_of_applyDefaults {m m' : Manager} (h : (s.applyDefaults m).Yields m') :
    ∃ values, s.defaultValues = .ok values ∧ m.setDefaults values = m' := by
  obtain ⟨-, -, h⟩ := Yields.bind h
  obtain ⟨-, -, h⟩ := Yields.bind h
  obtain ⟨values, hvalues, h⟩ := Yields.bind h
  exact ⟨values, hvalues.settle, h.pure⟩

theorem registrar_of_registerControllers {m m' : Manager}
    (h : (s.registerControllers m).Yields m') : s.collaborators.registrar m = .ok m' := by
  obtain ⟨-, -, h⟩ := Yields.bind h
  exact h.settle

theorem withWebhooks_of_registerWebhooks {m m' : Manager}
    (h : (s.registerWebhooks m).Yields m') : s.withWebhooks m = .ok m' := by
  unfold registerWebhooks at h
  unfold withWebhooks
  split_ifs at h ⊢ with henabled
  · obtain ⟨-, -, h⟩ := Yields.bind h
    obtain ⟨-, -, h⟩ := Yields.bind h
    exact h.settle
  · obtain ⟨-, -, h⟩ := Yields.bind h
    rw [h.pure]

theorem withProbes_of_registerProbes {m m' : Manager} (h : (registerProbes m).Yields m') :
    withProbes m = .ok m' := by
  obtain ⟨-, -, h⟩ := Yields.bind h
  obtain ⟨checked, hchecked, h⟩ := Yields.bind h
  rw [withProbes, hchecked.settle]
  exact h.settle

/-- A start constructs a manager for the topology that was chosen, and furnishes it. -/
theorem exists_furnish_of_yields {r : Topology.Resolution} {m : Manager}
    (h : (s.course r).Yields m) :
    ∃ scheme topology built,
      (Scheme.buildFrom .empty s.collaborators.schemeBuilders).1 = .ok scheme ∧
      r.result = .ok topology ∧ Manager.build topology (s.options scheme) = .ok built ∧
      s.furnish built = .ok m := by
  obtain ⟨scheme, hbegin, h⟩ := h.bind
  obtain ⟨built, hbuilt, h⟩ := h.bind
  obtain ⟨m₁, hdefaults, h⟩ := h.bind
  obtain ⟨m₂, hcontrollers, h⟩ := h.bind
  obtain ⟨m₃, hwebhooks, hprobes⟩ := h.bind
  obtain ⟨topology, htopology, hbuild⟩ := s.build_of_buildManager hbuilt
  obtain ⟨values, hvalues, rfl⟩ := s.defaultValues_of_applyDefaults hdefaults
  refine ⟨scheme, topology, built, s.built_of_begin hbegin, htopology, hbuild, ?_⟩
  simp only [furnish, hvalues, bind, Except.bind, s.registrar_of_registerControllers hcontrollers,
    s.withWebhooks_of_registerWebhooks hwebhooks]
  exact withProbes_of_registerProbes hprobes

/-- A start that succeeds constructs a manager for the topology that is chosen on the surface, and
furnishes it. -/
theorem exists_furnish_of_prepare {σ : Type} {surface : Surface (StateM σ)} {state : σ}
    {m : Manager} {topology : Topology} (h : ((s.prepare surface .empty).run state).1.1 = .ok m)
    (htopology : ((Topology.resolve surface s.settings.cluster s.settings.apiExportName).run
      state).1 = .ok topology) :
    ∃ scheme built, (Scheme.buildFrom .empty s.collaborators.schemeBuilders).1 = .ok scheme ∧
      Manager.build topology (s.options scheme) = .ok built ∧ s.furnish built = .ok m := by
  rw [run_prepare_eq] at h
  obtain ⟨scheme, topology', built, hscheme, hresult, hbuild, hfurnish⟩ :=
    s.exists_furnish_of_yields ⟨.empty, h⟩
  obtain rfl : topology' = topology := Except.ok.inj (hresult.symm.trans htopology)
  exact ⟨scheme, built, hscheme, hbuild, hfurnish⟩

/-- Managers of starts with these identities, on the base cluster and on the virtual workspace at
this address. -/
structure BoundApart (identity₁ identity₂ host : String) (m₁ m₂ : Manager) : Prop where
  /-- They are the same but for the binding. -/
  same : ∃ b, m₂ = m₁.rebind b
  standard : m₁.kind = .standard ∧ m₁.host = s.settings.cluster.url.toText ∧
    m₁.workload = s.settings.cluster
  clusterAware : m₂.kind = .clusterAware ∧ m₂.host = host ∧
    ∃ uri url, Net.Uri.parse host = .ok uri ∧ Manager.wildcardUrl uri = .ok url ∧
      m₂.workload = { s.settings.cluster with url := url }
  absent : s.settings.leaderElect = false → m₁.election = none ∧ m₂.election = none
  /-- An election is about the same lease, in the base cluster. -/
  elects : s.settings.leaderElect = true →
    ∃ ns, Election.pickNamespace s.settings.leaderElectionNamespace s.inClusterNamespace = .ok ns ∧
      m₁.election = some ⟨⟨identity₁, Election.Elector.standardLease, ns, .standard⟩,
        s.settings.cluster.url.toText⟩ ∧
      m₂.election = some ⟨⟨identity₂, Election.Elector.standardLease, ns, .standard⟩,
        s.settings.cluster.url.toText⟩

/-- What is furnished with one binding is what is furnished without it, and bound. -/
theorem eq_rebind_of_furnish (h : s.LooksAway) {m m' : Manager}
    {b : Binding} (hm' : s.furnish (m.rebind b) = .ok m') :
    ∃ furnished, s.furnish m = .ok furnished ∧ m' = furnished.rebind b := by
  rw [s.oblivious_furnish h] at hm'
  cases hfurnish : s.furnish m with
  | error error =>
    rw [hfurnish] at hm'
    cases hm'
  | ok furnished =>
    rw [hfurnish] at hm'
    cases hm'
    exact ⟨furnished, rfl, rfl⟩

/-- **The topology decides the binding and nothing else.** Two starts with the same settings,
environment, schemes, controllers and webhooks, one on the base cluster and one on a virtual
workspace, lead to managers that are the same but for the kind, the address that they were built
for, and the address of the controllers. The host of the workspace is the first address that its
export advertises. Both elect in the base cluster, about the same lease, or neither elects. -/
theorem topology_decides_binding (set : ControllerSet)
    (hset : s.collaborators.registrar = .ofControllers set) (rs : List Webhook.Resource)
    (hwebhooks : s.collaborators.webhooks = rs.map Webhook.Resource.collaborator)
    (identity₁ identity₂ : String) {σ₁ σ₂ : Type} (surface₁ : Surface (StateM σ₁))
    (surface₂ : Surface (StateM σ₂)) (state₁ : σ₁) (state₂ : σ₂) (m₁ m₂ : Manager)
    (endpoint : Config) (host : String)
    (h₁ : ((prepare { s with identity := identity₁ } surface₁ .empty).run state₁).1.1 = .ok m₁)
    (h₂ : ((prepare { s with identity := identity₂ } surface₂ .empty).run state₂).1.1 = .ok m₂)
    (hstandalone : ((Topology.resolve surface₁ s.settings.cluster s.settings.apiExportName).run
      state₁).1 = .ok .standalone)
    (hworkspace : ((Topology.resolve surface₂ s.settings.cluster s.settings.apiExportName).run
      state₂).1 = .ok (.virtualWorkspace endpoint host)) :
    s.BoundApart identity₁ identity₂ host m₁ m₂ ∧
      ∃ asked rest, (surface₂.hasGroup exportGroup).run state₂ = (.ok true, asked) ∧
        ((surface₂.workspaceUrls s.settings.apiExportName).run asked).1 =
          .ok (some (host :: rest)) := by
  have hlooks : s.LooksAway := looksAway_of_eq hset hwebhooks
  obtain ⟨scheme, built₁, hscheme₁, hbuild₁, hfurnish₁⟩ :=
    exists_furnish_of_prepare _ h₁ hstandalone
  obtain ⟨scheme₂, built₂, hscheme₂, hbuild₂, hfurnish₂⟩ :=
    exists_furnish_of_prepare _ h₂ hworkspace
  obtain rfl : scheme = scheme₂ := Except.ok.inj (hscheme₁.symm.trans hscheme₂)
  obtain ⟨kind₁, workload₁, host₁, election₁, hbinding₁, helection₁, rfl⟩ :=
    eq_rebind_of_build hbuild₁
  obtain ⟨kind₂, workload₂, host₂, election₂, hbinding₂, helection₂, rfl⟩ :=
    eq_rebind_of_build hbuild₂
  obtain ⟨m, hm, rfl⟩ := s.eq_rebind_of_furnish hlooks hfurnish₁
  obtain ⟨m', hm', rfl⟩ := s.eq_rebind_of_furnish hlooks hfurnish₂
  obtain rfl : m = m' := Except.ok.inj (hm.symm.trans hm')
  obtain ⟨asked, rest, uri, hasked, hadvertised, huri, rfl⟩ :=
    Topology.advertised_of_resolve hworkspace
  obtain ⟨rfl, rfl, url, hurl, rfl⟩ := binding_virtualWorkspace hbinding₂
  cases (binding_standalone _).symm.trans hbinding₁
  refine ⟨⟨⟨_, rfl⟩, ⟨rfl, rfl, rfl⟩, ⟨rfl, rfl, uri, url, huri, hurl, rfl⟩, fun hoff => ?_,
    fun hleads => ?_⟩, asked, rest, hasked, hadvertised⟩
  · exact ⟨Except.ok.inj (helection₁.symm.trans (electionOf_of_false hoff)),
      Except.ok.inj (helection₂.symm.trans (electionOf_of_false hoff))⟩
  · obtain ⟨ns, hns, rfl⟩ := exists_of_electionOf helection₁ hleads
    obtain ⟨ns', hns', rfl⟩ := exists_of_electionOf helection₂ hleads
    obtain rfl : ns = ns' := Except.ok.inj (hns.symm.trans hns')
    exact ⟨ns, hns, rfl, rfl⟩

/-- A sequencer with two controllers and the webhooks of the release service, which elects in the
namespace that it runs in. -/
def staffed : Sequencer :=
  { plain with
    settings := { plain.settings with leaderElect := true, enableWebhooks := true }
    inClusterNamespace := some "releases"
    collaborators := .release
      (.ofControllers ⟨[("second", [.hang]), ("first", [.awaitStop])], by decide⟩) .standard }

/-- A surface whose export advertises a workspace. -/
def workspaceSurface : Surface (StateM Unit) := .advertising "https://vw.example/services/"

/-- What succeeds has a value. -/
theorem exists_of_toBool {ε α : Type} {x : Except ε α} (h : x.toBool = true) : ∃ a, x = .ok a := by
  cases x with
  | error e => cases h
  | ok a => exact ⟨a, rfl⟩

/-- The same start on the base cluster and on a workspace, under two identities. -/
theorem staffed_bound_apart : ∃ m₁ m₂,
    ((prepare { staffed with identity := "a" } (exportless false) .empty).run ()).1.1 = .ok m₁ ∧
      ((prepare { staffed with identity := "b" } workspaceSurface .empty).run ()).1.1 = .ok m₂ ∧
      staffed.BoundApart "a" "b" "https://vw.example/services/" m₁ m₂ := by
  have h₁ : ((prepare { staffed with identity := "a" } (exportless false) .empty).run
      ()).1.1.toBool = true := by
    decide +kernel
  have h₂ : ((prepare { staffed with identity := "b" } workspaceSurface .empty).run
      ()).1.1.toBool = true := by
    decide +kernel
  obtain ⟨m₁, h₁⟩ := exists_of_toBool h₁
  obtain ⟨m₂, h₂⟩ := exists_of_toBool h₂
  obtain ⟨hbound, -⟩ := staffed.topology_decides_binding _ rfl _ rfl "a" "b" (exportless false)
    workspaceSurface () () m₁ m₂ _ _ h₁ h₂ rfl rfl
  exact ⟨m₁, m₂, h₁, h₂, hbound⟩

end Sequencer

end Startup

end ControllerManager
