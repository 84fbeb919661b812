import ControllerManager.Topology

/-!
# The choice of a topology

The cluster is asked for the group of exports first, and only once. Any answer but a plain yes, a
failure too, means the base cluster, and nothing more is asked. After a yes the base cluster is
never meant: without the name of an export that is an error of the configuration, and with one its
addresses are asked for once, and every way in which they are of no use is an error that names the
export.

## Main definitions

* `Cluster.Query` — a question to a surface.
* `Cluster.Surface.recorded` — the surface that keeps a record of the questions.
* `Cluster.Surface.answering`, `Cluster.Surface.advertising` — surfaces for examples.
* `Topology.Agrees` — a choice and a connection that say the same.

## Main results

* `Topology.run_resolve_recorded` — the questions of a choice.
* `Topology.resolve_decides` — what comes of it.
-/

namespace ControllerManager

namespace Cluster

/-- A question to a surface. -/
inductive Query where
  | group (name : String)
  | workspaces (exportName : String)
  deriving DecidableEq

/-- The surface with the same answers that keeps a record of the questions. -/
def Surface.recorded {σ : Type} (surface : Surface (StateM σ)) :
    Surface (StateM (σ × List Query)) where
  hasGroup group := fun (state, asked) =>
    let (answer, state) := (surface.hasGroup group).run state
    (answer, state, asked ++ [.group group])
  workspaceUrls exportName := fun (state, asked) =>
    let (answer, state) := (surface.workspaceUrls exportName).run state
    (answer, state, asked ++ [.workspaces exportName])

/-- A surface that always gives the same answers. -/
def Surface.answering (group : Except Error Bool) (urls : Except Error (Option (List String))) :
    Surface (StateM Unit) :=
  ⟨fun _ => pure group, fun _ => pure urls⟩

/-- A surface whose export advertises this address. -/
def Surface.advertising (url : String) : Surface (StateM Unit) :=
  .answering (.ok true) (.ok (some [url]))

end Cluster

namespace Topology

open Cluster

variable {σ : Type} (surface : Surface (StateM σ)) (base : Config) (exportName : String)

/-! ### The address of a workspace -/

/-- Addresses that are of no use are an error that names the export, whatever is wrong with them. -/
theorem firstUrl_cases (lookup : Except Error (Option (List String))) :
    (∃ host uri, (firstUrl lookup).mapError (Fault.toError exportName) = .ok (host, uri)) ∨
      ∃ message, (firstUrl lookup).mapError (Fault.toError exportName) =
        .error (.resolution exportName message) := by
  rcases lookup with error | _ | _ | ⟨url, rest⟩
  · exact .inr ⟨_, rfl⟩
  · exact .inr ⟨_, rfl⟩
  · exact .inr ⟨_, rfl⟩
  · unfold firstUrl
    dsimp only
    rcases Net.Uri.parse url with fault | uri
    · exact .inr ⟨_, rfl⟩
    · dsimp only
      split
      · exact .inr ⟨_, rfl⟩
      · exact .inl ⟨url, uri, rfl⟩

theorem run_advertisedUrl_of_ne (h : exportName ≠ "") (state : σ) :
    (advertisedUrl surface exportName).run state =
      ((firstUrl ((surface.workspaceUrls exportName).run state).1).mapError
          (Fault.toError exportName),
        ((surface.workspaceUrls exportName).run state).2) := by
  have hempty : exportName.isEmpty = false := by simpa using h
  unfold advertisedUrl
  rw [hempty]
  rfl

/-- The address is asked for once, and not at all without a name. -/
theorem run_advertisedUrl_recorded (state : σ) (asked : List Query) :
    (advertisedUrl surface.recorded exportName).run (state, asked) =
      (((advertisedUrl surface exportName).run state).1,
        ((advertisedUrl surface exportName).run state).2,
        asked ++ if exportName = "" then [] else [.workspaces exportName]) := by
  by_cases h : exportName = ""
  · subst h
    rw [if_pos rfl, List.append_nil]
    rfl
  · rw [if_neg h, run_advertisedUrl_of_ne surface.recorded exportName h,
      run_advertisedUrl_of_ne surface exportName h]
    rfl

/-! ### The choice -/

/-- What is asked for a choice, given the answer to the first question. -/
def questions : Except Error Bool → List Query
  | .ok true => .group exportGroup :: if exportName = "" then [] else [.workspaces exportName]
  | _ => [.group exportGroup]

theorem run_resolve_of_ne {state asked : σ} {group : Except Error Bool}
    (h : (surface.hasGroup exportGroup).run state = (group, asked)) (hgroup : group ≠ .ok true) :
    (resolve surface base exportName).run state = (.ok .standalone, asked) := by
  unfold resolve resolution
  rw [StateT.run_map, StateT.run_bind, h]
  rcases group with error | _ | _
  · rfl
  · rfl
  · exact absurd rfl hgroup

theorem run_resolve_of_eq {state asked : σ}
    (h : (surface.hasGroup exportGroup).run state = (.ok true, asked)) :
    (resolve surface base exportName).run state =
      ((((advertisedUrl surface exportName).run asked).1.map fun (host, uri) =>
          .virtualWorkspace { base with url := uri } host),
        ((advertisedUrl surface exportName).run asked).2) := by
  unfold resolve resolution
  rw [StateT.run_map, StateT.run_bind, h]
  rfl

theorem questions_of_ne {group : Except Error Bool} (h : group ≠ .ok true) :
    questions exportName group = [.group exportGroup] := by
  rcases group with error | _ | _
  · rfl
  · rfl
  · exact absurd rfl h

/-- The group is asked for once, and the addresses as well after a yes, if there is a name. -/
theorem run_resolve_recorded (state : σ) :
    (resolve surface.recorded base exportName).run (state, []) =
      (((resolve surface base exportName).run state).1,
        ((resolve surface base exportName).run state).2,
        questions exportName ((surface.hasGroup exportGroup).run state).1) := by
  rcases h : (surface.hasGroup exportGroup).run state with ⟨group, asked⟩
  have hrecorded : (surface.recorded.hasGroup exportGroup).run (state, []) =
      (group, asked, [.group exportGroup]) := by
    change (((surface.hasGroup exportGroup).run state).1,
      ((surface.hasGroup exportGroup).run state).2, [Query.group exportGroup]) = _
    rw [h]
  by_cases hgroup : group = .ok true
  · subst hgroup
    rw [run_resolve_of_eq surface.recorded base exportName hrecorded,
      run_resolve_of_eq surface base exportName h, run_advertisedUrl_recorded]
    rfl
  · rw [run_resolve_of_ne surface.recorded base exportName hrecorded hgroup,
      run_resolve_of_ne surface base exportName h hgroup, questions_of_ne exportName hgroup]

/-- A choice and a connection that say the same: the same failure, or the workspace that is reached
with the connection, which is the base connection with another address. -/
def Agrees : Except Error Topology → Except Error Config → Prop
  | .error e, .error e' => e = e'
  | .ok (.virtualWorkspace endpoint _), .ok config =>
    endpoint = config ∧ ∃ url, config = { base with url := url }
  | _, _ => False

theorem run_resolveVirtualWorkspace (state : σ) :
    ((resolveVirtualWorkspace surface base exportName).run state).1 =
      ((advertisedUrl surface exportName).run state).1.map
        fun (_, uri) => { base with url := uri } := rfl

theorem agrees_of_eq {state asked : σ}
    (h : (surface.hasGroup exportGroup).run state = (.ok true, asked)) :
    Agrees base ((resolve surface base exportName).run state).1
      ((resolveVirtualWorkspace surface base exportName).run asked).1 := by
  rw [run_resolve_of_eq surface base exportName h, run_resolveVirtualWorkspace]
  rcases ((advertisedUrl surface exportName).run asked).1 with error | ⟨host, uri⟩
  · exact rfl
  · exact ⟨rfl, uri, rfl⟩

/-- **The choice of a topology**, given the answer to the question for the group. -/
theorem resolve_decides {state asked : σ} {group : Except Error Bool}
    (h : (surface.hasGroup exportGroup).run state = (group, asked)) :
    ((resolve surface.recorded base exportName).run (state, [])).1 =
        ((resolve surface base exportName).run state).1 ∧
    ((resolve surface.recorded base exportName).run (state, [])).2.2 =
        questions exportName group ∧
    (((resolve surface base exportName).run state).1 = .ok .standalone ↔ group ≠ .ok true) ∧
    (group = .ok true → exportName = "" →
      ∃ message, ((resolve surface base exportName).run state).1 =
        .error (.configuration message)) ∧
    (group = .ok true → exportName ≠ "" →
      (∃ endpoint host, ((resolve surface base exportName).run state).1 =
        .ok (.virtualWorkspace endpoint host)) ∨
      ∃ message, ((resolve surface base exportName).run state).1 =
        .error (.resolution exportName message)) ∧
    (group = .ok true →
      Agrees base ((resolve surface base exportName).run state).1
        ((resolveVirtualWorkspace surface base exportName).run asked).1) := by
  have hagrees : group = .ok true → Agrees base ((resolve surface base exportName).run state).1
      ((resolveVirtualWorkspace surface base exportName).run asked).1 := by
    rintro rfl
    exact agrees_of_eq surface base exportName h
  refine ⟨?_, ?_, ⟨?_, fun hgroup => ?_⟩, ?_, ?_, hagrees⟩
  · rw [run_resolve_recorded]
  · rw [run_resolve_recorded, h]
  · intro hstandalone hgroup
    have := hagrees hgroup
    rw [hstandalone] at this
    exact this
  · rw [run_resolve_of_ne surface base exportName h hgroup]
  · rintro rfl rfl
    exact ⟨_, congrArg Prod.fst (run_resolve_of_eq surface base "" h)⟩
  · rintro rfl hname
    rw [run_resolve_of_eq surface base exportName h,
      run_advertisedUrl_of_ne surface exportName hname]
    dsimp only
    rcases firstUrl_cases exportName ((surface.workspaceUrls exportName).run asked).1 with
      ⟨host, uri, hurl⟩ | ⟨message, hurl⟩
    · exact .inl ⟨_, host, by rw [hurl]; rfl⟩
    · exact .inr ⟨message, by rw [hurl]; rfl⟩

/-- An export that is refused is an error, and not the base cluster. -/
theorem refused_export_not_standalone :
    let surface : Surface (StateM Unit) := .answering (.ok true) (.error (.runtime "refused"))
    let base := Config.ofUrl (.absolute "https".toList "base.example".toList ⟨['/'], none⟩)
    (surface.hasGroup exportGroup).run () = (.ok true, ()) ∧
      ((resolve surface base "releases").run ()).1 ≠ .ok .standalone ∧
      ((resolve surface.recorded base "releases").run ((), [])).2.2 =
        [.group exportGroup, .workspaces "releases"] ∧
      ∃ message, ((resolve surface base "releases").run ()).1 =
        .error (.resolution "releases" message) := by
  intro surface base
  obtain ⟨-, hquestions, hstandalone, -, hcases, -⟩ :=
    resolve_decides surface base "releases" (show _ = (.ok true, ()) from rfl)
  refine ⟨rfl, fun h => hstandalone.1 h rfl, hquestions, ?_⟩
  rcases hcases rfl (by decide) with ⟨endpoint, host, h⟩ | h
  · cases (show Except.error _ = Except.ok _ from h)
  · exact h

end Topology

end ControllerManager
