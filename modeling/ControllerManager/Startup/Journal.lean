import ControllerManager.Manager.Run
import ControllerManager.Metrics
import ControllerManager.Startup.Stage

/-!
# The journal of a start

What is told while the manager is started and run, in order. The stages that were entered and the
metrics are views of it. A stage is entered only behind the stages before it.

## Main definitions

* `Startup.Notice` — what is told.
* `Startup.Journal` — the notices in order.
* `Startup.Journal.history`, `Startup.Journal.metrics` — its two views.
* `Startup.Journal.enter?` — the journal after one more stage was entered.
-/

namespace ControllerManager.Startup

/-- What is told while the manager is started and run. -/
inductive Notice where
  | entered (stage : Stage)
  | packageRegistered (name : String) (kinds : Nat)
  | schemeBuilt (kinds : Nat)
  /-- The base cluster was asked for a group, with this answer. -/
  | groupAsked (group : String) (answer : Except Error Bool)
  | workspaceSought (exportName : String)
  | workspaceFound (url : String)
  | topologyChosen (topology : Topology)
  | managerBuilt (kind : Manager.Kind) (host : String) (elects : Bool)
  | defaultApplied (applied : Defaults.Applied)
  | webhooksSkipped
  | webhookRegistered (name path : String)
  | managerStarted (kind : Manager.Kind) (host : String)
  /-- The running manager wrote to its log. -/
  | managerTold (manager : Manager) (time : Nat) (entry : Manager.Entry)

namespace Notice

/-- The stage that a notice says was entered. -/
def stage? : Notice → Option Stage
  | entered stage => some stage
  | _ => none

/-- Metrics after a notice. -/
def record (m : Metrics) : Notice → Metrics
  | entered stage => m.recordStage stage.ordinal
  | topologyChosen topology => m.recordTopology topology.name
  | _ => m

end Notice

/-- The notices in order. -/
structure Journal where
  notices : List Notice

namespace Journal

/-- The journal without notices. -/
def empty : Journal := ⟨[]⟩

/-- The journal with one more notice. -/
def tell (j : Journal) (notice : Notice) : Journal := ⟨j.notices ++ [notice]⟩

/-- The stages that were entered, in order. -/
def history (j : Journal) : List Stage := j.notices.filterMap Notice.stage?

/-- The metrics that were recorded. -/
def metrics (j : Journal) : Metrics := j.notices.foldl Notice.record .empty

/-- Whether a stage comes behind all stages that were entered. -/
def admits (j : Journal) (stage : Stage) : Bool :=
  match j.history.getLast? with
  | some last => last.ordinal < stage.ordinal
  | none => true

/-- The journal after one more stage was entered, if it comes behind the last one. -/
def enter? (j : Journal) (stage : Stage) : Option Journal :=
  if j.admits stage then some (j.tell (.entered stage)) else none

/-- Whether a stage was entered. -/
def reached (j : Journal) (stage : Stage) : Bool := j.history.contains stage

@[simp] theorem history_tell (j : Journal) (notice : Notice) :
    (j.tell notice).history = j.history ++ notice.stage?.toList := by
  cases h : notice.stage? <;> simp [history, tell, List.filterMap_append, h]

end Journal

end ControllerManager.Startup
