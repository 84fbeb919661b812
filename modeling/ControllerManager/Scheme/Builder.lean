import ControllerManager.Scheme.Basic

/-!
# Scheme builders

The packages of kinds from which a scheme is built, and those of the release service.

## Main definitions

* `Scheme.Builder` — the registrations of a package, in order.
* `Scheme.build` — the scheme of a list of packages.
* `Scheme.releaseBuilders` — the packages of the release service.
-/

namespace ControllerManager.Scheme

/-- The registrations of a package, and the failure in which they end, if they do. -/
structure Builder where
  name : String
  registrations : List (GroupVersionKind × Scope)
  failure : Option Error := none
  deriving Repr

/-- A scheme with the registrations up to the first that fails, and the failure. -/
def addAll (s : Scheme) : List (GroupVersionKind × Scope) → Scheme × Option Error
  | [] => (s, none)
  | (gvk, scope) :: rest =>
    match s.add gvk scope with
    | .ok s => addAll s rest
    | .error e => (s, some e)

/-- A scheme with the registrations of a package up to the first that fails, and the failure. -/
def run (s : Scheme) (b : Builder) : Scheme × Option Error :=
  match s.addAll b.registrations with
  | (s, some e) => (s, some e)
  | (s, none) => (s, b.failure)

/-- The sizes of a scheme after each of the packages that were registered, with their names. -/
abbrev Progress := List (String × Nat)

/-- The scheme of the packages in order on top of `s`, and the progress up to the first package
that fails. -/
def buildFrom (s : Scheme) : List Builder → Except Error Scheme × Progress
  | [] => (.ok s, [])
  | b :: rest =>
    match s.run b with
    | (_, some e) => (.error e, [])
    | (s, none) =>
      let (result, progress) := buildFrom s rest
      (result, (b.name, s.size) :: progress)

/-- The scheme of the packages in order. -/
def build (builders : List Builder) : Except Error Scheme := (buildFrom empty builders).1

/-- Kinds of one group and version. -/
def ofGroup (group version : String) (kinds : List (String × Scope)) :
    List (GroupVersionKind × Scope) :=
  kinds.map fun (kind, scope) => (⟨group, version, kind⟩, scope)

/-- The group of the release service. -/
def releaseGroup : String := "appstudio.redhat.com"

/-- The version of the release service. -/
def releaseVersion : String := "v1alpha1"

/-- The kinds of the cluster itself that the controllers read or create. -/
def core : Builder where
  name := "core"
  registrations :=
    ofGroup "" "v1"
        [("ConfigMap", .namespaced), ("Secret", .namespaced), ("ServiceAccount", .namespaced),
         ("PersistentVolumeClaim", .namespaced), ("Namespace", .cluster),
         ("Event", .namespaced)] ++
      ofGroup "coordination.k8s.io" "v1" [("Lease", .namespaced)] ++
      ofGroup "rbac.authorization.k8s.io" "v1" [("Role", .namespaced), ("RoleBinding", .namespaced)]

/-- The kinds of the release service. -/
def release : Builder where
  name := "release"
  registrations :=
    ofGroup releaseGroup releaseVersion
      [("Release", .namespaced), ("ReleasePlan", .namespaced),
       ("ReleasePlanAdmission", .namespaced), ("ReleaseStrategy", .namespaced)]

/-- The kinds that several services share. -/
def appstudioShared : Builder where
  name := "appstudio-shared"
  registrations :=
    ofGroup releaseGroup releaseVersion
      [("Snapshot", .namespaced), ("SnapshotEnvironmentBinding", .namespaced),
       ("Environment", .namespaced)]

/-- The kinds of the application service. -/
def application : Builder where
  name := "application"
  registrations :=
    ofGroup releaseGroup releaseVersion [("Application", .namespaced), ("Component", .namespaced)]

/-- The kinds of pipelines. -/
def tekton : Builder where
  name := "tekton"
  registrations :=
    ofGroup "tekton.dev" "v1beta1" [("PipelineRun", .namespaced), ("Pipeline", .namespaced)]

/-- The packages of the release service, in the order of their registration. -/
def releaseBuilders : List Builder := [core, release, appstudioShared, application, tekton]

end ControllerManager.Scheme
