import ControllerManager.Error
import ControllerManager.Registry.Roster

/-!
# Controllers

What the manager sees of a controller: a name, and the steps that it takes once it is started.

## Main definitions

* `Manager.Step` — what a controller does next.
* `Manager.Controller` — the steps of a controller.
* `Manager.ControllerSet` — named controllers in order.
-/

namespace ControllerManager.Manager

/-- What a controller does next. -/
inductive Step where
  | sleep (duration : Nat)
  /-- It ends with a failure. -/
  | fail (error : Error)
  /-- It dies without a result. -/
  | crash (message : String)
  /-- It waits for the request to stop. -/
  | awaitStop
  /-- It tells what it was started with, and whether it has to stop. -/
  | report
  /-- It waits forever. -/
  | hang
  deriving Repr, DecidableEq

/-- The steps of a controller, which ends well behind the last one. -/
abbrev Controller := List Step

/-- The failure to register a controller. -/
def controllerRejected (name message : String) : Error := .registration "controller" name message

/-- Named controllers in order. -/
structure ControllerSet where
  members : Roster Controller

namespace ControllerSet

/-- The set without controllers. -/
def empty : ControllerSet := ⟨.empty⟩

/-- The names of the controllers in order. -/
def names (s : ControllerSet) : List String := s.members.names

/-- The set with one more controller. -/
def add (s : ControllerSet) (name : String) (controller : Controller) :
    Except Error ControllerSet :=
  match s.members.add? name controller with
  | some members => .ok ⟨members⟩
  | none => .error (controllerRejected name "duplicate controller name")

/-- The set of named controllers. -/
def ofList (controllers : List (String × Controller)) : Except Error ControllerSet :=
  controllers.foldlM (fun s (name, controller) => s.add name controller) empty

end ControllerSet

end ControllerManager.Manager
