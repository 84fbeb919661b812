import ControllerManager.Manager.Site

/-!
# Tasks of a running manager

The controllers and the servers of a running manager. Each of them does one thing at a time, ends by
itself, or is aborted.

## Main definitions

* `Manager.ControllerTask`, `Manager.ControllerTask.advance` — a controller, and what it does now.
* `Manager.ServerTask`, `Manager.ServerTask.advance` — a server, and what it does now.
-/

namespace ControllerManager.Manager

/-- How a controller ends. -/
inductive Ending where
  | finished
  | failed (error : Error)
  | crashed (message : String)
  deriving Repr, DecidableEq

/-- Where a controller stands. Times are nanoseconds since the start of the run. -/
inductive ControllerState where
  /-- It was called but has not begun. -/
  | called (steps : Controller)
  | active (steps : Controller)
  | sleeping (wake : Nat) (steps : Controller)
  /-- It has ended, and the manager has taken note of it or not. -/
  | ended (ending : Ending) (noted : Bool)
  | aborted
  deriving Repr, DecidableEq

/-- What a controller tells. -/
inductive Happening where
  | started
  | sawStop
  | failing
  | finished
  | reported (stopRequested : Bool)
  deriving Repr, DecidableEq

/-- A controller with its name. -/
structure ControllerTask where
  name : String
  state : ControllerState
  deriving Repr, DecidableEq

namespace ControllerTask

/-- Whether nothing of the controller runs any more. -/
def isOver (t : ControllerTask) : Bool :=
  match t.state with
  | .ended _ _ | .aborted => true
  | _ => false

/-- The controller after an abort. One that has ended is left alone. -/
def abort (t : ControllerTask) : ControllerTask :=
  if t.isOver then t else { t with state := .aborted }

/-- What a controller does at `time`, if it does anything, and what it tells. `stopped` says
whether the request to stop has been passed on. -/
def advance (time : Nat) (stopped : Bool) (t : ControllerTask) :
    Option (ControllerTask × Option Happening) :=
  let become (state : ControllerState) : ControllerTask := { t with state := state }
  match t.state with
  | .called steps => some (become (.active steps), some .started)
  | .active [] => some (become (.ended .finished false), some .finished)
  | .active (.sleep duration :: steps) => some (become (.sleeping (time + duration) steps), none)
  | .active (.fail error :: _) => some (become (.ended (.failed error) false), some .failing)
  | .active (.crash message :: _) => some (become (.ended (.crashed message) false), none)
  | .active (.awaitStop :: steps) =>
    if stopped then some (become (.active steps), some .sawStop) else none
  | .active (.report :: steps) => some (become (.active steps), some (.reported stopped))
  | .active (.hang :: _) => none
  | .sleeping wake steps => if wake ≤ time then some (become (.active steps), none) else none
  | .ended _ _ | .aborted => none

/-- When a controller goes on by itself. -/
def nextTime (t : ControllerTask) : Option Nat :=
  match t.state with
  | .sleeping wake _ => some wake
  | _ => none

/-- The failure that the end of a controller means for the manager, if it means one. -/
def failure? (name : String) : Ending → Option Error
  | .finished => none
  | .failed error => some (.runtime ("controller " ++ name ++ ": " ++ error.message))
  | .crashed message =>
    some (.runtime
      ("controller task failed: task N panicked with message " ++ Text.quoted message))

end ControllerTask

/-- Where a server stands. -/
inductive ServerState where
  | serving
  /-- It has ended, with the failure that ended it or without one. -/
  | ended (failure : Option Error)
  | aborted
  deriving Repr, DecidableEq

/-- A server with what will become of it. -/
structure ServerTask where
  name : ServerName
  state : ServerState
  /-- When it ends without having to, and with which failure. -/
  exit : Option (Nat × Option Error)
  /-- How long it takes to stop, in nanoseconds. -/
  lingering : Nat
  deriving Repr, DecidableEq

namespace ServerTask

/-- A server that starts, and fails at once if it cannot. -/
def start (name : ServerName) (failure : Option Error) : ServerTask :=
  ⟨name, .serving, failure.map fun e => (0, some e), 0⟩

/-- Whether nothing of the server runs any more. -/
def isOver (t : ServerTask) : Bool :=
  match t.state with
  | .serving => false
  | .ended _ | .aborted => true

/-- The server after an abort. One that has ended is left alone. -/
def abort (t : ServerTask) : ServerTask := if t.isOver then t else { t with state := .aborted }

/-- What a server does at `time`, if it does anything. `stopped` says when the request to stop was
passed on. -/
def advance (time : Nat) (stopped : Option Nat) (t : ServerTask) : Option ServerTask :=
  match t.state with
  | .serving =>
    match t.exit.filter (·.1 ≤ time) with
    | some (_, failure) => some { t with state := .ended failure }
    | none =>
      if stopped.any (· + t.lingering ≤ time) then some { t with state := .ended none } else none
  | .ended _ | .aborted => none

/-- When a server goes on by itself. -/
def nextTime (stopped : Option Nat) (t : ServerTask) : Option Nat :=
  match t.state with
  | .serving => ((t.exit.map (·.1)).toList ++ (stopped.map (· + t.lingering)).toList).min?
  | .ended _ | .aborted => none

/-- What the end of a server means for the manager, where it was not asked to stop. -/
def exitError? (t : ServerTask) : Option Error :=
  match t.state with
  | .ended (some failure) => some failure
  | .ended none => some (.runtime (t.name.word ++ " server stopped unexpectedly"))
  | .serving | .aborted => none

end ServerTask

end ControllerManager.Manager
