import ControllerManager.Scheme.Builder
import ControllerManager.Webhook.Collaborator
import ControllerManager.Webhook.Path

/-!
# Webhooks of resources

A webhook for one kind that the scheme knows stands at the conventional path of that kind.

## Main definitions

* `Webhook.Resource` — a webhook for one kind.
* `Webhook.Resource.register` — its registration with a manager.
* `Webhook.Resource.registerAll` — the registrations of a list.
* `Webhook.releaseWebhooks` — the webhooks of the release service.
-/

namespace ControllerManager.Webhook

open Admission

/-- A webhook for one kind. -/
structure Resource where
  name : String
  purpose : Purpose
  kind : GroupVersionKind
  handler : Handler

namespace Resource

/-- The path of a webhook. -/
def path (r : Resource) : String := Webhook.path r.purpose r.kind.group r.kind.version r.kind.kind

/-- The manager with one more webhook. The kind has to be known. -/
def register (r : Resource) (m : Manager) : Except Error Manager :=
  if m.scheme.recognizes r.kind then m.addWebhook r.path r.name r.handler
  else
    .error (Manager.webhookRejected r.name
      ("kind " ++ r.kind.toText ++ " is not registered in the scheme"))

/-- A webhook for one kind, as something that registers a webhook. -/
def collaborator (r : Resource) : Collaborator := ⟨r.name, r.register⟩

/-- The manager with the webhooks in order up to the first that is rejected, those that were
mounted, and why that one was rejected. -/
def registerAll (m : Manager) (rs : List Resource) :
    Manager × List (String × Mounted) × Option Error :=
  Collaborator.registerAll m (rs.map collaborator)

end Resource

/-- The handlers of the webhooks of the release service. -/
structure ReleaseHandlers where
  author : Handler
  release : Handler
  releasePlan : Handler
  releasePlanAdmission : Handler

/-- Handlers that allow everything. -/
def ReleaseHandlers.standard : ReleaseHandlers := ⟨allowAll, allowAll, allowAll, allowAll⟩

/-- The webhooks of the release service in the order of their registration. The one that notes the
author comes before those that judge the result. -/
def releaseWebhooks (h : ReleaseHandlers) : List Resource :=
  let kind (name : String) : GroupVersionKind := ⟨Scheme.releaseGroup, Scheme.releaseVersion, name⟩
  [⟨"Author", .mutate, kind "Release", h.author⟩,
   ⟨"Release", .validate, kind "Release", h.release⟩,
   ⟨"ReleasePlan", .validate, kind "ReleasePlan", h.releasePlan⟩,
   ⟨"ReleasePlanAdmission", .validate, kind "ReleasePlanAdmission", h.releasePlanAdmission⟩]

end ControllerManager.Webhook
