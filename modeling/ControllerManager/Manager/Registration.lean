import ControllerManager.Manager.Basic

/-!
# Registration with the manager

Controllers, webhooks and checks are registered under distinct names; the first registration stays.

## Main definitions

* `Manager.addController`, `Manager.addControllers` — controllers, in the order in which they come.
* `Manager.addWebhook` — webhooks, at distinct paths.
* `Manager.addHealthz`, `Manager.addReadyz` — checks of the two endpoints.
* `Manager.Registration`, `Manager.register` — any of these as one request.
-/

namespace ControllerManager.Manager

/-- The manager with one more controller. -/
def addController (m : Manager) (name : String) (controller : Controller) :
    Except Error Manager :=
  match m.controllers.add? name controller with
  | some controllers => .ok { m with controllers := controllers }
  | none => .error (controllerRejected name "a controller with this name is already registered")

/-- The manager with the controllers in order up to the first that is rejected, and why it is. -/
def addControllers (m : Manager) : List (String × Controller) → Manager × Option Error
  | [] => (m, none)
  | (name, controller) :: rest =>
    match m.addController name controller with
    | .ok m => addControllers m rest
    | .error e => (m, some e)

/-- The failure to register a webhook. -/
def webhookRejected (name message : String) : Error := .registration "webhook" name message

/-- The manager with one more webhook. A path starts with a slash. -/
def addWebhook (m : Manager) (path name : String) (handler : Admission.Handler) :
    Except Error Manager :=
  if path.toList.head? ≠ some '/' then
    .error (webhookRejected name ("path " ++ Text.quoted path ++ " must start with '/'"))
  else
    match m.webhooks.insert? path ⟨name, handler⟩ with
    | some webhooks => .ok { m with webhooks := webhooks }
    | none => .error (webhookRejected name ("path " ++ path ++ " is already registered"))

/-- The manager with one more check of `healthz`. -/
def addHealthz (m : Manager) (name : String) (health : Probe.Health) : Except Error Manager :=
  match m.healthz.insert? name health with
  | some checks => .ok { m with healthz := checks }
  | none => .error (.registration "healthz check" name "duplicate check name")

/-- The manager with one more check of `readyz`. -/
def addReadyz (m : Manager) (name : String) (health : Probe.Health) : Except Error Manager :=
  match m.readyz.insert? name health with
  | some checks => .ok { m with readyz := checks }
  | none => .error (.registration "readyz check" name "duplicate check name")

/-- The manager with other operational defaults. -/
def setDefaults (m : Manager) (values : Defaults.Values) : Manager := { m with defaults := values }

/-- What is asked of a manager before it runs. -/
inductive Registration where
  | controller (name : String) (controller : Controller)
  | controllers (members : List (String × Controller))
  | webhook (path name : String) (handler : Admission.Handler)
  | healthz (name : String) (health : Probe.Health)
  | readyz (name : String) (health : Probe.Health)
  | defaults (values : Defaults.Values)

/-- The manager after a result, which stays as it was where the result is a failure. -/
def orKeep (m : Manager) : Except Error Manager → Manager × Option Error
  | .ok m => (m, none)
  | .error e => (m, some e)

/-- The manager after a registration, and why it was rejected. -/
def register (m : Manager) : Registration → Manager × Option Error
  | .controller name controller => m.orKeep (m.addController name controller)
  | .controllers members => m.addControllers members
  | .webhook path name handler => m.orKeep (m.addWebhook path name handler)
  | .healthz name health => m.orKeep (m.addHealthz name health)
  | .readyz name health => m.orKeep (m.addReadyz name health)
  | .defaults values => (m.setDefaults values, none)

/-- The manager after registrations in order, and why each of them was rejected. -/
def registerAll (m : Manager) : List Registration → Manager × List (Option Error)
  | [] => (m, [])
  | r :: rest =>
    let (m, rejection) := m.register r
    let (m, rejections) := registerAll m rest
    (m, rejection :: rejections)

end ControllerManager.Manager
