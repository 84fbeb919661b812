import ControllerManager.Environment
import ControllerManager.Error
import ControllerManager.Registry.Roster

/-!
# Operational defaults

The values that the controllers need for release pipelines. A value that is set explicitly comes
before one from the environment, and that before a fallback; empty values count as unset. What was
applied to a key once stays.

## Main definitions

* `Defaults.Resolver` — the sources of values and what was applied so far.
* `Defaults.Resolver.apply` — the value of a key.
* `Defaults.Resolver.resolve` — the values of the keys of the release service.
-/

namespace ControllerManager.Defaults

/-- Where a value comes from. -/
inductive Origin where
  | explicit
  | environment
  | fallback
  deriving Repr, DecidableEq

/-- The word for an origin. -/
def Origin.name : Origin → String
  | .explicit => "explicit"
  | .environment => "environment"
  | .fallback => "fallback"

/-- The key of the volume claim of releases. -/
def pvcKey : String := "DEFAULT_RELEASE_PVC"

/-- The key of the workspace of releases. -/
def workspaceKey : String := "DEFAULT_RELEASE_WORKSPACE_NAME"

/-- Values that are set explicitly. -/
structure Overrides where
  releasePvc : Option String
  releaseWorkspaceName : Option String
  deriving Repr, DecidableEq

/-- The values that the controllers need. -/
structure Values where
  releasePvc : String
  releaseWorkspaceName : String
  deriving Repr, DecidableEq

/-- The fallbacks. -/
def Values.standard : Values := ⟨"release-pvc", "release-workspace"⟩

/-- What was applied to a key. -/
structure Applied where
  key : String
  value : String
  origin : Origin
  deriving Repr, DecidableEq

/-- Why a key has no value. -/
inductive Fault where
  | invalidKey
  | unreadable (bytes : List UInt8)
  | nothingSet
  deriving Repr, DecidableEq

/-- The failure that a fault of a key means. -/
def Fault.toError (key : String) : Fault → Error
  | .invalidKey => .defaults key "invalid environment variable name"
  | .unreadable bytes => .defaults key (Environment.unreadableMessage bytes)
  | .nothingSet => .defaults key "no value set and fallback is empty"

/-- The names that a variable can have. -/
def isValidKey (key : String) : Bool :=
  !key.isEmpty && !key.toList.contains '=' && !key.toList.contains '\x00'

/-- The sources of values, and what was applied so far. -/
structure Resolver where
  environment : Environment.Source
  explicit : List (String × String)
  applied : Roster (String × Origin)

namespace Resolver

/-- The resolver that has applied nothing, without explicit values. -/
def ofSource (environment : Environment.Source) : Resolver := ⟨environment, [], .empty⟩

/-- The resolver with explicit values. -/
def withOverrides (r : Resolver) (o : Overrides) : Resolver :=
  { r with
    explicit := (o.releasePvc.toList.map (pvcKey, ·)) ++
      o.releaseWorkspaceName.toList.map (workspaceKey, ·) }

/-- A value that is set explicitly and not empty. -/
def explicit? (r : Resolver) (key : String) : Option String :=
  ((r.explicit.find? (·.1 == key)).map (·.2)).filter (!·.isEmpty)

/-- The value of a key by the order of the sources. -/
def lookup (r : Resolver) (key fallback : String) : Except Fault (String × Origin) :=
  match r.explicit? key with
  | some value => .ok (value, .explicit)
  | none =>
    match r.environment key with
    | .unreadable bytes => .error (.unreadable bytes)
    | .text value =>
      if !value.isEmpty then .ok (value, .environment)
      else if fallback.isEmpty then .error .nothingSet
      else .ok (fallback, .fallback)
    | .unset => if fallback.isEmpty then .error .nothingSet else .ok (fallback, .fallback)

/-- What was applied to a key. -/
def applied? (r : Resolver) (key : String) : Option (String × Origin) :=
  (r.applied.entries.find? (·.1 == key)).map (·.2)

/-- Where the value comes from that was applied to a key. -/
def origin? (r : Resolver) (key : String) : Option Origin := (r.applied? key).map (·.2)

/-- The value of a key, which is looked up at the first time only, and the resolver after it. -/
def apply (r : Resolver) (key fallback : String) : Except Fault (String × Resolver) :=
  if !isValidKey key then .error .invalidKey
  else
    match r.applied? key with
    | some (value, _) => .ok (value, r)
    | none => do
      let (value, origin) ← r.lookup key fallback
      return (value, { r with applied := (r.applied.add? key (value, origin)).getD r.applied })

/-- What was applied, in order. -/
def history (r : Resolver) : List Applied :=
  r.applied.entries.map fun (key, value, origin) => ⟨key, value, origin⟩

/-- The values of the keys of the release service, and the resolver after the last key that was
applied. -/
def resolve (r : Resolver) : Except Error Values × Resolver :=
  match r.apply pvcKey Values.standard.releasePvc with
  | .error fault => (.error (fault.toError pvcKey), r)
  | .ok (pvc, r) =>
    match r.apply workspaceKey Values.standard.releaseWorkspaceName with
    | .error fault => (.error (fault.toError workspaceKey), r)
    | .ok (workspace, r) => (.ok ⟨pvc, workspace⟩, r)

end Resolver

end ControllerManager.Defaults
