import ControllerManager.Manager.Registration
import Mathlib.Tactic.SplitIfs

/-!
# What registrations leave alone

A registration enters something into one of the registries of a manager, or changes its defaults.
Whether it is accepted or not, all else of the manager stays as it was: what it is bound to, its
scheme, its options and its election.

## Main definitions

* `Manager.Furnished` — a manager after registrations.

## Main results

* `Manager.furnished_register`, `Manager.furnished_registerAll` — registrations change the
  registries and the defaults only.
-/

namespace ControllerManager.Manager

variable {m m' m'' : Manager}

/-- The manager `m'` is the manager `m` with other registries and other defaults. -/
def Furnished (m m' : Manager) : Prop :=
  m' = { m with
    controllers := m'.controllers
    webhooks := m'.webhooks
    healthz := m'.healthz
    readyz := m'.readyz
    defaults := m'.defaults }

namespace Furnished

theorem refl (m : Manager) : m.Furnished m := rfl

theorem trans (h : m.Furnished m') (h' : m'.Furnished m'') : m.Furnished m'' := by
  unfold Furnished at h h' ⊢
  rw [h', h]

theorem scheme (h : m.Furnished m') : m'.scheme = m.scheme := by rw [h]

theorem election (h : m.Furnished m') : m'.election = m.election := by rw [h]

end Furnished

/-- Controllers, up to the first that is rejected, change the roster of controllers only. -/
theorem addControllers_fst (m : Manager) (members : List (String × Controller)) :
    (m.addControllers members).1 =
      { m with controllers := (m.addControllers members).1.controllers } := by
  induction members generalizing m with
  | nil => rfl
  | cons member rest ih =>
    obtain ⟨name, controller⟩ := member
    simp only [addControllers, addController]
    cases m.controllers.add? name controller with
    | none => rfl
    | some controllers => exact ih _

/-- A registration, accepted or not, changes the registries and the defaults only. -/
theorem furnished_register (m : Manager) (r : Registration) : m.Furnished (m.register r).1 := by
  cases r with
  | controller name controller =>
    simp only [register, addController]
    cases m.controllers.add? name controller <;> rfl
  | controllers members =>
    unfold Furnished
    rw [register, addControllers_fst]
  | webhook path name handler =>
    simp only [register, addWebhook]
    split_ifs
    · rfl
    · cases m.webhooks.insert? path ⟨name, handler⟩ <;> rfl
  | healthz name health =>
    simp only [register, addHealthz]
    cases m.healthz.insert? name health <;> rfl
  | readyz name health =>
    simp only [register, addReadyz]
    cases m.readyz.insert? name health <;> rfl
  | defaults values => rfl

theorem furnished_registerAll (m : Manager) (rs : List Registration) :
    m.Furnished (m.registerAll rs).1 := by
  induction rs generalizing m with
  | nil => exact .refl m
  | cons r rs ih => exact (m.furnished_register r).trans (ih _)

end ControllerManager.Manager
