import ControllerManager.Proofs.Startup.Binding
import ControllerManager.Proofs.Webhook.Dispatch
import ControllerManager.Proofs.Webhook.Registration

/-!
# The stage of the webhooks

A start that comes through the controllers holds a manager with the scheme that its builders built
and, if what registers the controllers leaves the webhooks alone, without any webhook. Where the
webhooks are turned on, the list of the collaborators decides alone about the next stage: it
succeeds exactly if the scheme knows all kinds and the paths are distinct. Otherwise the first
webhook that offends is named.

## Main definitions

* `Startup.Registrar.SparesWebhooks` — a registrar that leaves the webhooks alone.
* `Startup.Sequencer.throughControllers` — the course of a start before the webhooks.
* `Startup.Sequencer.failedAt?` — the stage at which a start failed.
* `Startup.Sequencer.probed` — what the last stage of a start makes of a manager.
* `Startup.Sequencer.Registers` — what a start comes to whose webhooks are turned on.

## Main results

* `Startup.Registrar.SparesWebhooks.of_registerAll` — so does what registers no webhook.
* `Startup.Sequencer.run_course_of_throughControllers` — how a start goes on with the webhooks.
* `Startup.Sequencer.webhooks_registered_iff`.
-/

namespace ControllerManager

namespace Manager

/-! ### Registrations without a webhook -/

/-- What asks for no webhook leaves the webhooks alone. -/
theorem webhooks_register {r : Registration} (h : r.webhook? = none) (m : Manager) :
    (m.register r).1.webhooks = m.webhooks := by
  rcases register_cases m r with ⟨e, -, hwebhook, -⟩ | ⟨hsame, -⟩
  · rw [h] at hwebhook
    cases hwebhook
  · exact hsame

theorem webhooks_addHealthz {m m' : Manager} {name : String} {health : Probe.Health}
    (h : m.addHealthz name health = .ok m') : m'.webhooks = m.webhooks := by
  have hsame := webhooks_register (r := .healthz name health) rfl m
  rwa [register, h] at hsame

theorem webhooks_addReadyz {m m' : Manager} {name : String} {health : Probe.Health}
    (h : m.addReadyz name health = .ok m') : m'.webhooks = m.webhooks := by
  have hsame := webhooks_register (r := .readyz name health) rfl m
  rwa [register, h] at hsame

theorem webhooks_registerAll {rs : List Registration} (h : ∀ r ∈ rs, r.webhook? = none)
    (m : Manager) : (m.registerAll rs).1.webhooks = m.webhooks := by
  induction rs generalizing m with
  | nil => rfl
  | cons r rs ih =>
    obtain ⟨hfirst, hrest⟩ := List.forall_mem_cons.1 h
    exact (ih hrest (m.register r).1).trans (webhooks_register hfirst m)

end Manager

namespace Startup

open Cluster Manager Course
open Webhook.Resource (Agree FirstOffends Mounts Serves registerAll registerAll_cases_of_empty)

/-- Where the registrar succeeds, the webhooks and the scheme are as they were. -/
def Registrar.SparesWebhooks (registrar : Registrar) : Prop :=
  ∀ m m', registrar m = .ok m' → m'.webhooks = m.webhooks ∧ m'.scheme = m.scheme

/-- A registrar leaves the webhooks alone if it asks for registrations only, and for none of a
webhook. -/
theorem Registrar.SparesWebhooks.of_registerAll {registrar : Registrar}
    (h : ∀ m m', registrar m = .ok m' →
      ∃ rs, (∀ r ∈ rs, r.webhook? = none) ∧ m' = (m.registerAll rs).1) :
    registrar.SparesWebhooks := by
  intro m m' hm'
  obtain ⟨rs, hrs, rfl⟩ := h m m' hm'
  exact ⟨webhooks_registerAll hrs m, (m.furnished_registerAll rs).scheme⟩

theorem sparesWebhooks_ofControllers (set : ControllerSet) :
    (Registrar.ofControllers set).SparesWebhooks := by
  refine .of_registerAll fun m m' h => ⟨[.controllers set.members.entries], by simp [
    Registration.webhook?], ?_⟩
  unfold Registrar.ofControllers at h
  split at h
  case h_1 m₁ hall =>
    cases h
    simp [Manager.registerAll, register, hall]
  case h_2 => cases h

namespace Course

variable {α : Type} {j : Journal}

theorem run_settle (stage : Stage) (x : Except Error α) (j : Journal) :
    (settle stage x).run.run j = (x.mapError fun e => .failed ⟨stage, e⟩, j) := by
  cases x <;> rfl

end Course

namespace Sequencer

variable (s : Sequencer)

/-- The stages that a start enters before the webhooks. -/
def earlyStages : List Stage :=
  [.parseConfig, .resolveTopology, .buildManager, .applyDefaults, .registerControllers]

/-- The course of a start before the webhooks. -/
def throughControllers (r : Topology.Resolution) : Course Manager := do
  let scheme ← s.begin
  let m ← s.buildManager scheme r
  let m ← s.applyDefaults m
  s.registerControllers m

/-- What the last stage of a start makes of a manager. -/
def probed (m : Manager) : Except Halt Manager :=
  (withProbes m).mapError fun e => .failed ⟨.registerProbes, e⟩

/-- The stage at which a start failed, if it did. -/
def failedAt? : Except Halt Manager → Option Stage
  | .error (.failed f) => some f.stage
  | _ => none

theorem course_eq (r : Topology.Resolution) :
    s.course r = s.throughControllers r >>= fun m => s.registerWebhooks m >>= registerProbes := by
  simp only [course, assemble, throughControllers, bind_assoc]

theorem passes_throughControllers (r : Topology.Resolution) :
    (s.throughControllers r).Passes [] earlyStages := by
  refine s.passes_begin.bind fun scheme => ?_
  refine (s.passes_buildManager scheme r rfl).bind fun m => ?_
  refine (s.passes_applyDefaults m (by simp [Stage.Behind, Stage.ordinal])).bind fun m => ?_
  exact s.passes_registerControllers m (by simp [Stage.Behind, Stage.ordinal])

/-- Before the webhooks a manager has the scheme that was built and, if the registrar leaves the
webhooks alone, no webhook. -/
theorem manager_of_throughControllers (hspares : s.collaborators.registrar.SparesWebhooks)
    {r : Topology.Resolution} {m : Manager} (h : (s.throughControllers r).Yields m) :
    (Scheme.buildFrom .empty s.collaborators.schemeBuilders).1 = .ok m.scheme ∧
      m.webhooks = .empty := by
  obtain ⟨scheme, hbegin, h⟩ := h.bind
  obtain ⟨built, hbuilt, h⟩ := h.bind
  obtain ⟨m₁, hdefaults, hcontrollers⟩ := h.bind
  obtain ⟨topology, -, hbuild⟩ := s.build_of_buildManager hbuilt
  obtain ⟨values, -, rfl⟩ := s.defaultValues_of_applyDefaults hdefaults
  obtain ⟨hwebhooks, hscheme⟩ := hspares _ m (s.registrar_of_registerControllers hcontrollers)
  obtain ⟨kind, workload, host, election, -, -, rfl⟩ := eq_rebind_of_build hbuild
  rw [hwebhooks, hscheme, s.built_of_begin hbegin]
  exact ⟨rfl, rfl⟩

/-! ### The stages behind the controllers -/

variable {j : Journal} {m : Manager}

theorem run_registerWebhooks (h : j.admits .registerWebhooks = true) (m : Manager) :
    ((s.registerWebhooks m).run.run j).1 =
      (s.withWebhooks m).mapError fun e => .failed ⟨.registerWebhooks, e⟩ := by
  unfold registerWebhooks withWebhooks
  split_ifs
  · rw [run_bind, run_enter, if_pos h]
    rcases Webhook.Collaborator.registerAll m s.collaborators.webhooks with
      ⟨m', mounted, _ | error⟩ <;> rfl
  · rfl

theorem run_registerProbes (h : j.admits .registerProbes = true) (m : Manager) :
    ((registerProbes m).run.run j).1 = probed m := by
  unfold registerProbes probed withProbes
  rw [run_bind, run_enter, if_pos h]
  simp only [run_bind, run_settle]
  cases m.addHealthz "healthz" .passing <;> rfl

/-- A start that came through the controllers registers the webhooks and then the checks. -/
theorem run_course_of_throughControllers {r : Topology.Resolution}
    (h : (s.throughControllers r).run.run .empty = (.ok m, j)) :
    ((s.course r).run.run .empty).1 =
      ((s.withWebhooks m).mapError fun e => .failed ⟨.registerWebhooks, e⟩) >>= probed := by
  have hhistory : j.history = earlyStages := by
    have hstaged := s.passes_throughControllers r .empty rfl
    rwa [h] at hstaged
  have hwebhooks : j.admits .registerWebhooks = true := by
    simp [Journal.admits_iff, Stage.Behind, hhistory, earlyStages, Stage.ordinal]
  have hrun := s.run_registerWebhooks hwebhooks m
  have hstaged := s.passes_registerWebhooks m (Journal.admits_iff.1 hwebhooks) j rfl
  rw [course_eq, run_bind, h]
  dsimp only
  rw [run_bind]
  rcases hcourse : (s.registerWebhooks m).run.run j with ⟨halt | m', j'⟩ <;>
    rw [hcourse] at hrun hstaged <;> rw [← hrun]
  · rfl
  · have hprobes : j'.admits .registerProbes = true := by
      rw [Journal.admits_iff, show j'.history = _ from hstaged, hhistory]
      split_ifs <;> simp [Stage.Behind, earlyStages, Stage.ordinal]
    exact run_registerProbes hprobes m'

/-- A start that does not fail up to the controllers comes through them. -/
theorem exists_throughControllers {r : Topology.Resolution}
    (h : ∀ stage ∈ failedAt? ((s.course r).run.run .empty).1,
      Stage.registerControllers.ordinal < stage.ordinal) :
    ∃ m j, (s.throughControllers r).run.run .empty = (.ok m, j) := by
  have hstaged := s.passes_throughControllers r .empty rfl
  rw [course_eq, run_bind] at h
  rcases hrun : (s.throughControllers r).run.run .empty with ⟨(f | _ | _) | m, j⟩ <;>
    rw [hrun] at hstaged h
  · obtain ⟨hpre, hlast⟩ := hstaged
    have hearly : ∀ stage ∈ earlyStages, stage.ordinal ≤ Stage.registerControllers.ordinal := by
      decide
    have hstage : f.stage ∈ earlyStages := hpre.subset (List.mem_of_getLast? hlast)
    exact absurd (h f.stage rfl) (Nat.not_lt.2 (hearly _ hstage))
  · exact hstaged.elim
  · exact hstaged.elim
  · exact ⟨m, j, rfl⟩

/-- The checks leave the webhooks alone. -/
theorem webhooks_of_probed {m' : Manager} (h : probed m = .ok m') : m'.webhooks = m.webhooks := by
  obtain ⟨checked, hhealthz, hreadyz⟩ : ∃ checked,
      m.addHealthz "healthz" .passing = .ok checked ∧
        checked.addReadyz "readyz" .passing = .ok m' := by
    unfold probed withProbes at h
    rcases hhealthz : m.addHealthz "healthz" .passing with error | checked <;> rw [hhealthz] at h
    · cases h
    · refine ⟨checked, rfl, ?_⟩
      change (checked.addReadyz "readyz" .passing).mapError _ = .ok m' at h
      rcases hreadyz : checked.addReadyz "readyz" .passing with error | ready <;>
        rw [hreadyz] at h
      · cases h
      · cases h
        rfl
  exact (webhooks_addReadyz hreadyz).trans (webhooks_addHealthz hhealthz)

/-- What a start comes to whose manager `m` came through the controllers, when it is to have these
webhooks and the scheme is this one. -/
structure Registers (rs : List Webhook.Resource) (scheme : Scheme) (m : Manager)
    (out : Except Halt Manager) : Prop where
  /-- The stage of the webhooks succeeds exactly if they agree. -/
  succeeds_iff : failedAt? out ≠ some .registerWebhooks ↔ Agree scheme rs
  /-- Webhooks that agree are mounted, with nothing else changed, and the start goes on. -/
  mounts : Agree scheme rs → ∃ m', Mounts m m' rs ∧ Serves m' rs ∧ out = probed m'
  /-- Otherwise the stage fails with the first that offends. -/
  rejects : ¬ Agree scheme rs →
    ∃ r, FirstOffends scheme rs r ∧
      out = .error (.failed ⟨.registerWebhooks,
        .registration "webhook" r.name (r.objection scheme)⟩)

/-- What the checks make of a manager is no failure at the stage of the webhooks. -/
theorem failedAt?_probed_ne (m : Manager) : failedAt? (probed m) ≠ some .registerWebhooks := by
  unfold probed
  cases withProbes m <;> simp [Except.mapError, failedAt?]

theorem registers_of_withWebhooks {rs : List Webhook.Resource}
    (hwebhooks : s.collaborators.webhooks = rs.map Webhook.Resource.collaborator)
    (henabled : s.settings.enableWebhooks = true) (hempty : m.webhooks = .empty) :
    Registers rs m.scheme m
      (((s.withWebhooks m).mapError fun e => .failed ⟨.registerWebhooks, e⟩) >>= probed) := by
  have hregisterAll : Webhook.Collaborator.registerAll m s.collaborators.webhooks =
      registerAll m rs := by
    rw [hwebhooks, Webhook.Resource.registerAll]
  rcases registerAll_cases_of_empty hempty rs with
    ⟨hagree, m', hall, hmounts⟩ | ⟨hnot, r, hoffends, hall⟩
  · have hwith : s.withWebhooks m = .ok m' := by
      simp only [withWebhooks, henabled, hregisterAll, hall, if_true]
    rw [hwith]
    exact ⟨iff_of_true (failedAt?_probed_ne m') hagree, fun _ =>
      ⟨m', hmounts, hmounts.serves hempty, rfl⟩, fun hnot => absurd hagree hnot⟩
  · have hwith : s.withWebhooks m =
        .error (.registration "webhook" r.name (r.objection m.scheme)) := by
      simp only [withWebhooks, henabled, hregisterAll, hall, if_true]
    rw [hwith]
    exact ⟨iff_of_false (fun hne => hne rfl) hnot, fun hagree => absurd hagree hnot, fun _ =>
      ⟨r, hoffends, rfl⟩⟩

/-- **The webhooks of a start.** Let a start not fail up to the controllers, with a registrar that
leaves the webhooks alone, and let its webhooks be for kinds. Then the scheme was built, and there
is a manager that came through the controllers. With webhooks turned on, the next stage succeeds
exactly if the scheme knows the kinds of all webhooks of the list and their paths are distinct: then
these webhooks and no others are mounted, each under its own name and with its own handler, and stay
so to the end of the start. Otherwise the stage fails with what is said against the first webhook of
the list that is for an unknown kind or at the path of an earlier one. With webhooks turned off none
is mounted. -/
theorem webhooks_registered_iff (rs : List Webhook.Resource)
    (hwebhooks : s.collaborators.webhooks = rs.map Webhook.Resource.collaborator)
    (hspares : s.collaborators.registrar.SparesWebhooks) {σ : Type}
    (surface : Surface (StateM σ)) (state : σ)
    (hearly : ∀ stage ∈ failedAt? ((s.prepare surface .empty).run state).1.1,
      Stage.registerControllers.ordinal < stage.ordinal) :
    ∃ scheme m,
      (Scheme.buildFrom .empty s.collaborators.schemeBuilders).1 = .ok scheme ∧
      (s.throughControllers ((Topology.resolution surface s.settings.cluster
        s.settings.apiExportName).run state).1).Yields m ∧
      (s.settings.enableWebhooks = true →
        Registers rs scheme m ((s.prepare surface .empty).run state).1.1 ∧
        ∀ m', ((s.prepare surface .empty).run state).1.1 = .ok m' → Serves m' rs) ∧
      (s.settings.enableWebhooks = false →
        ((s.prepare surface .empty).run state).1.1 = probed m ∧
        ∀ m', ((s.prepare surface .empty).run state).1.1 = .ok m' → m'.webhooks = .empty) := by
  rw [run_prepare_eq] at hearly ⊢
  obtain ⟨m, j, hthrough⟩ := s.exists_throughControllers hearly
  have hyields : (s.throughControllers _).Yields m := ⟨.empty, congrArg (·.1) hthrough⟩
  obtain ⟨hscheme, hempty⟩ := s.manager_of_throughControllers hspares hyields
  rw [s.run_course_of_throughControllers hthrough]
  refine ⟨m.scheme, m, hscheme, hyields, fun henabled => ?_, fun hdisabled => ?_⟩
  · have hregisters := s.registers_of_withWebhooks hwebhooks henabled hempty
    refine ⟨hregisters, fun m' hm' => ?_⟩
    have hagree : Agree m.scheme rs :=
      hregisters.succeeds_iff.1 (by simp [hm', failedAt?])
    obtain ⟨mounted, -, hserves, hout⟩ := hregisters.mounts hagree
    have hsame : m'.webhooks = mounted.webhooks := webhooks_of_probed (hout ▸ hm')
    exact ⟨hsame ▸ hserves.sorted, hsame ▸ hserves.paths, hsame ▸ hserves.own⟩
  · have hwith : s.withWebhooks m = .ok m := by
      simp only [withWebhooks, hdisabled, Bool.false_eq_true, if_false]
    rw [hwith]
    exact ⟨rfl, fun m' hm' => (webhooks_of_probed hm').trans hempty⟩

/-- The webhooks of the release service, which allow everything. -/
def releaseJudges : List Webhook.Resource := Webhook.releaseWebhooks .standard

/-- The sequencer with two controllers, whose webhooks stand twice in its list. -/
def doubled : Sequencer :=
  { staffed with collaborators := { staffed.collaborators with
      webhooks := staffed.collaborators.webhooks ++ staffed.collaborators.webhooks } }

/-- A start with the webhooks of the release service has them all. With each of them twice it fails
at the stage of the webhooks. -/
theorem staffed_serves_doubled_fails :
    (∃ m, ((staffed.prepare workspaceSurface .empty).run ()).1.1 = .ok m ∧
      Serves m releaseJudges) ∧
    ∃ scheme r, FirstOffends scheme (releaseJudges ++ releaseJudges) r ∧
      ((doubled.prepare workspaceSurface .empty).run ()).1.1 = .error (.failed ⟨.registerWebhooks,
        .registration "webhook" r.name (r.objection scheme)⟩) := by
  have hspares : staffed.collaborators.registrar.SparesWebhooks := sparesWebhooks_ofControllers _
  have hstaffed : ((staffed.prepare workspaceSurface .empty).run ()).1.1.toBool = true := by
    decide +kernel
  obtain ⟨m, hm⟩ := exists_of_toBool hstaffed
  obtain ⟨_, _, -, -, henabled, -⟩ := staffed.webhooks_registered_iff releaseJudges rfl hspares
    workspaceSurface () (by simp [hm, failedAt?])
  refine ⟨⟨m, hm, (henabled rfl).2 m hm⟩, ?_⟩
  have hdoubled : failedAt? ((doubled.prepare workspaceSurface .empty).run ()).1.1 =
      some .registerWebhooks := by
    decide +kernel
  obtain ⟨scheme, _, -, -, henabled, -⟩ := doubled.webhooks_registered_iff
    (releaseJudges ++ releaseJudges) rfl hspares workspaceSurface () fun stage hstage => by
      obtain rfl := Option.some.inj (hdoubled.symm.trans hstage)
      decide
  have htwice : ¬ ((releaseJudges ++ releaseJudges).map Webhook.Resource.path).Nodup := by
    decide +kernel
  exact ⟨scheme, (henabled rfl).1.rejects fun hagree => htwice hagree.distinct⟩

end Sequencer

end Startup

end ControllerManager
