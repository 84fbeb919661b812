import ControllerManager.Text.Lower

/-!
# Webhook paths

The conventional path of a webhook for one kind of resources.

## Main definitions

* `Webhook.Purpose` — whether a webhook changes or only judges resources.
* `Webhook.path` — `/<purpose>-<group with dashes for dots>-<version>-<kind in lower case>`.
-/

namespace ControllerManager.Webhook

/-- Whether a webhook changes or only judges resources. -/
inductive Purpose where
  | mutate
  | validate
  deriving Repr, DecidableEq

/-- The name of a purpose. -/
def Purpose.name : Purpose → String
  | .mutate => "mutate"
  | .validate => "validate"

/-- The group as it stands in a path: dashes for dots, and a word for the empty group. -/
def groupSegment (group : String) : String :=
  if group.isEmpty then "core"
  else String.ofList (group.toList.map fun c => if c = '.' then '-' else c)

/-- The conventional path of a webhook. -/
def path (purpose : Purpose) (group version kind : String) : String :=
  "/" ++ purpose.name ++ "-" ++ groupSegment group ++ "-" ++ version ++ "-" ++ Text.lower kind

end ControllerManager.Webhook
