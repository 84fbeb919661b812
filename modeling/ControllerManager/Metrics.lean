import ControllerManager.Decimal.Shortest

/-!
# Metrics

What the manager counts and measures, and its exposition as text: the stage of the start, the
topology, the leadership, and the reviews of admission requests by webhook and outcome.

## Main definitions

* `Metrics` — the samples recorded so far.
* `Metrics.lines` — the lines of the exposition.
-/

namespace ControllerManager

/-- The samples recorded so far. -/
structure Metrics where
  stage : Option Nat
  topologies : List String
  leader : Option Bool
  /-- The number of reviews by webhook and outcome, in the order of their first review. -/
  admissions : List ((String × Bool) × Nat)
  deriving Repr

namespace Metrics

/-- No samples. -/
def empty : Metrics := ⟨none, [], none, []⟩

/-- The samples with the stage of the start. -/
def recordStage (m : Metrics) (ordinal : Nat) : Metrics := { m with stage := some ordinal }

/-- The samples with one more topology. -/
def recordTopology (m : Metrics) (topology : String) : Metrics :=
  if m.topologies.contains topology then m
  else { m with topologies := m.topologies ++ [topology] }

/-- The samples with the leadership. -/
def recordLeadership (m : Metrics) (isLeader : Bool) : Metrics := { m with leader := some isLeader }

/-- Counters with one more review. -/
def countReview (key : String × Bool) : List ((String × Bool) × Nat) → List ((String × Bool) × Nat)
  | [] => [(key, 1)]
  | (k, n) :: rest => if k == key then (k, n + 1) :: rest else (k, n) :: countReview key rest

/-- The samples with one more review. -/
def recordAdmission (m : Metrics) (webhook : String) (allowed : Bool) : Metrics :=
  { m with admissions := countReview (webhook, allowed) m.admissions }

/-- The number of reviews of a webhook with an outcome. -/
def admissionCount (m : Metrics) (webhook : String) (allowed : Bool) : Nat :=
  ((m.admissions.find? (·.1 == (webhook, allowed))).map (·.2)).getD 0

/-- The written form of a label value. -/
def escapeLabel (s : String) : String :=
  String.ofList <| s.toList.flatMap fun c =>
    match c with
    | '\\' => ['\\', '\\']
    | '"' => ['\\', '"']
    | '\n' => ['\\', 'n']
    | c => [c]

/-- A whole number as the binary fraction nearest to it, in digits. -/
def measure (n : Nat) : String :=
  match Decimal.Binary.nearest? n 1 with
  | none => toString n
  | some b =>
    let s := b.shortest
    toString (s.digits * Nat.pow 10 s.exponent.toNat)

/-- The lines of one metric with samples: its description if there are descriptions, its type, and
its samples. -/
def family (described : Bool) (name description kind : String) (samples : List String) :
    List String :=
  if samples.isEmpty then []
  else
    (if described then ["# HELP " ++ name ++ " " ++ description] else []) ++
      ("# TYPE " ++ name ++ " " ++ kind) :: samples.map (name ++ ·)

/-- The word for an outcome. -/
def outcome (allowed : Bool) : String := if allowed then "allowed" else "denied"

/-- The lines of the exposition. -/
def lines (m : Metrics) (described : Bool) : List String :=
  family described "release_operator_startup_stage" "Startup stage the sequencer is currently in"
      "gauge" (m.stage.toList.map fun n => " " ++ measure n) ++
    family described "release_operator_topology" "Topology the manager is bound to" "gauge"
      (m.topologies.map fun t => "\x7btopology=\"" ++ escapeLabel t ++ "\"\x7d 1") ++
    family described "release_operator_leader"
      "Whether this instance holds the leader election lease" "gauge"
      (m.leader.toList.map fun b => if b then " 1" else " 0") ++
    family described "release_operator_admission_requests_total"
      "Total number of admission reviews handled" "counter"
      (m.admissions.map fun ((webhook, allowed), n) =>
        "\x7bwebhook=\"" ++ escapeLabel webhook ++ "\",outcome=\"" ++ outcome allowed ++
          "\"\x7d " ++ toString n)

/-- The text of the exposition. -/
def text (m : Metrics) (described : Bool) : String :=
  String.join ((m.lines described).map (· ++ "\n"))

/-- The description of a second attempt to install the recorder. -/
def alreadyInstalled : String :=
  "failed to install exporter as global recorder: attempted to set a recorder after the metrics " ++
    "system was already initialized"

end Metrics

end ControllerManager
