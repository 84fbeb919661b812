/-!
# Shutdown signals

The request to stop, which reaches every task of the manager. It stands once it was sent, and the
end of its sender has the same effect on whoever waits for it.

## Main definitions

* `Manager.ShutdownSignal` — the signal as its receivers see it.
* `Manager.ShutdownSignal.waitFor` — the outcome of waiting for it for some time.
-/

namespace ControllerManager.Manager

/-- The signal as its receivers see it. -/
structure ShutdownSignal where
  /-- The value that was sent last. -/
  requested : Bool
  senderGone : Bool
  deriving Repr, DecidableEq

namespace ShutdownSignal

/-- A signal that was not sent. -/
def initial : ShutdownSignal := ⟨false, false⟩

/-- The signal after a value was sent. Nothing is sent without a sender. -/
def send (s : ShutdownSignal) (value : Bool) : ShutdownSignal :=
  if s.senderGone then s else { s with requested := value }

/-- The signal after the end of its sender. -/
def dropSender (s : ShutdownSignal) : ShutdownSignal := { s with senderGone := true }

/-- Whether whoever waits for the signal goes on. -/
def resolved (s : ShutdownSignal) : Bool := s.requested || s.senderGone

/-- The outcome of waiting. -/
inductive WaitOutcome where
  | resolved (elapsed : Nat)
  | timedOut (elapsed : Nat)
  deriving Repr, DecidableEq

/-- The outcome of waiting for at most `limit` nanoseconds, where the request to stop is sent after
`sendAfter` of them. At the limit itself the wait is over. -/
def waitFor (s : ShutdownSignal) (sendAfter : Option Nat) (limit : Nat) : WaitOutcome :=
  if s.resolved then .resolved 0
  else
    match sendAfter with
    | some t => if t < limit then .resolved t else .timedOut limit
    | none => .timedOut limit

end ShutdownSignal

end ControllerManager.Manager
