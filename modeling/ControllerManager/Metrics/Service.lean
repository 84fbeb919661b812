import ControllerManager.Http.Message
import ControllerManager.Metrics

/-!
# The metrics server

## Main definitions

* `Metrics.respond` — the answer to a request.
-/

namespace ControllerManager.Metrics

/-- The media type of an exposition. -/
def expositionType : String := "text/plain; version=0.0.4; charset=utf-8"

/-- The answer to a request, with the samples of the recorder if one is installed. -/
def respond (recorder : Option Metrics) (request : Http.Request) : Http.Response :=
  if request.path = "/metrics".toList then
    .forReading request.method <|
      match recorder with
      | some m => ⟨200, some expositionType, none, .text (m.text true)⟩
      | none => .text 503 "Metrics not initialized"
  else .notFound

end ControllerManager.Metrics
