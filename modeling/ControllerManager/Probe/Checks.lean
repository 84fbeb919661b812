import ControllerManager.Registry.Catalog
import ControllerManager.Text.Quoted

/-!
# Health checks

Named checks of one endpoint, their report, and the answer of a single one.

## Main definitions

* `Probe.Health` — the outcome of a check.
* `Probe.Checks` — the checks of an endpoint in ascending order of their names.
* `Probe.Checks.runAll`, `Probe.Checks.runOne` — status and text of the two kinds of probes.
-/

namespace ControllerManager.Probe

/-- The outcome of a check. -/
inductive Health where
  | passing
  | failing (reason : String)
  deriving Repr, DecidableEq

/-- Whether a check passes. -/
def Health.isPassing : Health → Bool
  | .passing => true
  | .failing _ => false

/-- The checks of an endpoint. -/
abbrev Checks := Catalog Health

namespace Checks

/-- The line of a check in a report. -/
def line (name : String) : Health → String
  | .passing => "[+]" ++ name ++ " ok"
  | .failing reason => "[-]" ++ name ++ " failed: " ++ reason

/-- The lines of all checks in ascending order of their names. -/
def lines (checks : Checks) : List String :=
  checks.entries.map fun (name, health) => line name health

/-- The status and the text of a probe of all checks. -/
def runAll (endpoint : String) (checks : Checks) : Nat × String :=
  if checks.entries.all fun (_, health) => health.isPassing then (200, "ok")
  else (500, String.join (checks.lines.map (· ++ "\n")) ++ endpoint ++ " check failed")

/-- The status and the text of a probe of one check. -/
def runOne (checks : Checks) (name : String) : Nat × String :=
  match checks.get? name with
  | none => (404, "no check named " ++ Text.quoted name)
  | some .passing => (200, "ok")
  | some (.failing reason) => (500, line name (.failing reason))

end Checks

end ControllerManager.Probe
