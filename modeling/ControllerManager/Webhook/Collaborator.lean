import ControllerManager.Manager.Registration

/-!
# What registers webhooks

A collaborator of a start has a name and registers a webhook, or whatever else it likes, with the
manager. The collaborators of a list do so in order, up to the first one that fails.

## Main definitions

* `Webhook.Collaborator` — what registers a webhook.
* `Webhook.Collaborator.registerAll` — the manager after the collaborators of a list.
-/

namespace ControllerManager.Webhook

/-- What registers a webhook, and whatever else it likes, with the manager. -/
structure Collaborator where
  name : String
  register : Manager → Except Error Manager

namespace Collaborator

/-- The manager after the collaborators in order up to the first that fails, the webhooks that they
have mounted, and why that one failed. -/
def registerAll (m : Manager) : List Collaborator → Manager × List (String × Mounted) × Option Error
  | [] => (m, [], none)
  | c :: rest =>
    match c.register m with
    | .ok after =>
      let (last, mounted, rejection) := registerAll after rest
      (last, after.webhooks.beside m.webhooks ++ mounted, rejection)
    | .error e => (m, [], some e)

end Collaborator

end ControllerManager.Webhook
