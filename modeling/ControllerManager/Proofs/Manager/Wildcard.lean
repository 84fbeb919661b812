import ControllerManager.Manager.Basic
import ControllerManager.Proofs.Net.Uri
import ControllerManager.Proofs.Startup.Binding
import ControllerManager.Proofs.Topology.Advertised
import Mathlib.Data.List.TakeWhile

/-!
# The view of all clusters

The controllers of a virtual workspace work on the view of all its clusters. Its address is the
printed address of the workspace without slashes at the end, with the wildcard path behind it. The
wildcard path thus follows what is printed last: the path where the address has no query, and the
query where it has one.

## Main definitions

* `Manager.IsWildcardView` — an address whose path is that of the endpoint and the wildcard path.
* `Manager.wildcardTarget` — the path and the query that a manager works on.

## Main results

* `Manager.wildcardUrl_absolute` — the address that a manager works on.
* `Manager.workload_isWildcardView_iff` — when it is the view of all clusters.
* `Manager.wildcard_in_query` — an address for which it is not.
-/

namespace ControllerManager

namespace Manager

open Net Uri

/-! ### Slashes at the end -/

/-- Slashes are trimmed from what stands behind another character. -/
theorem trimSlashes_append {held : List Char} (h : held.getLast? ≠ some '/') (cs : List Char) :
    trimSlashes (held ++ cs) = held ++ trimSlashes cs := by
  have hheld : held.reverse.dropWhile (· == '/') = held.reverse := by
    rw [List.dropWhile_eq_self_iff]
    intro hlt hslash
    refine h ?_
    rw [List.getLast?_eq_head?_reverse, List.head?_eq_getElem?, List.getElem?_eq_getElem hlt,
      eq_of_beq hslash]
  unfold trimSlashes
  rw [List.reverse_append, List.dropWhile_append]
  split_ifs with hempty
  · rw [hheld, List.isEmpty_iff.1 hempty, List.reverse_reverse, List.reverse_nil, List.append_nil]
  · rw [List.reverse_append, List.reverse_reverse]

theorem trimSlashes_eq_self {cs : List Char} (h : cs.getLast? ≠ some '/') :
    trimSlashes cs = cs := by
  simpa [trimSlashes] using trimSlashes_append h []

/-- Trimming keeps the beginning of a text. -/
theorem trimSlashes_isPrefix (cs : List Char) : trimSlashes cs <+: cs := by
  rw [← List.reverse_suffix, trimSlashes, List.reverse_reverse]
  exact List.dropWhile_suffix _

/-! ### The address that a manager works on -/

/-- The view of all clusters of a workspace: the wildcard path follows the path of the endpoint. -/
structure IsWildcardView (endpoint view : Uri) : Prop where
  scheme : view.scheme? = endpoint.scheme?
  authority : view.authority? = endpoint.authority?
  path : view.target.path = trimSlashes endpoint.target.path ++ wildcardPath.toList
  query : view.target.query = endpoint.target.query

/-- A path and a query with the wildcard path behind what is printed last. -/
def wildcardTarget (t : PathQuery) : PathQuery :=
  match t.query with
  | none => { t with path := trimSlashes t.path ++ wildcardPath.toList }
  | some q => { t with query := some (trimSlashes q ++ wildcardPath.toList) }

variable {scheme auth : List Char} {target : PathQuery}

theorem isTarget_wildcardTarget (h : target.IsTarget) : (wildcardTarget target).IsTarget := by
  obtain ⟨path, query⟩ := target
  obtain ⟨hroot, hpath, hquery⟩ := h
  cases query with
  | none =>
    refine ⟨?_, fun c hc => ?_, fun q hq => nomatch hq⟩
    · show (trimSlashes path ++ wildcardPath.toList).head? = some '/'
      obtain ⟨rest, hrest⟩ := trimSlashes_isPrefix path
      rcases htrim : trimSlashes path with _ | ⟨c, cs⟩
      · rfl
      · rw [← hrest, htrim] at hroot
        exact hroot
    · rcases List.mem_append.1 hc with hc | hc
      · exact hpath c ((trimSlashes_isPrefix path).subset hc)
      · exact List.all_eq_true.1 (by decide : wildcardPath.toList.all isPathChar = true) c hc
  | some q =>
    refine ⟨hroot, hpath, fun q' hq c hc => ?_⟩
    obtain rfl := Option.some.inj hq
    rcases List.mem_append.1 hc with hc | hc
    · exact hquery q rfl c ((trimSlashes_isPrefix q).subset hc)
    · exact List.all_eq_true.1 (by decide : wildcardPath.toList.all isQueryChar = true) c hc

theorem isAbsolute_wildcardTarget (h : IsAbsolute scheme auth target) :
    IsAbsolute scheme auth (wildcardTarget target) :=
  ⟨h.scheme, h.auth, isTarget_wildcardTarget h.target⟩

/-- The wildcard path stands behind what is printed last. -/
theorem print_wildcardTarget (hauth : IsAuthority auth) :
    trimSlashes (absolute scheme auth target).print ++ wildcardPath.toList =
      (absolute scheme auth (wildcardTarget target)).print := by
  obtain ⟨path, query⟩ := target
  cases query with
  | none =>
    have hlast : (scheme ++ "://".toList ++ auth).getLast? ≠ some '/' := by
      rw [List.getLast?_append_of_ne_nil _ hauth.ne_nil]
      intro hslash
      exact absurd (hauth.chars '/' (List.mem_of_getLast? hslash)) (by decide)
    have hprint : ∀ path, (absolute scheme auth ⟨path, none⟩).print =
        scheme ++ "://".toList ++ auth ++ path := by
      simp [Uri.print, PathQuery.print]
    rw [hprint, trimSlashes_append hlast, List.append_assoc]
    exact (hprint _).symm
  | some q =>
    have hlast : (scheme ++ "://".toList ++ auth ++ path ++ ['?']).getLast? ≠ some '/' := by
      rw [List.getLast?_append_of_ne_nil _ (List.cons_ne_nil _ _)]
      decide
    have hprint : ∀ q, (absolute scheme auth ⟨path, some q⟩).print =
        scheme ++ "://".toList ++ auth ++ path ++ ['?'] ++ q := by
      simp [Uri.print, PathQuery.print]
    rw [hprint, trimSlashes_append hlast, List.append_assoc]
    exact (hprint _).symm

/-- **The address that a manager works on** has the wildcard path behind what is printed last. There
is none if its text is too long. -/
theorem wildcardUrl_absolute (h : IsAbsolute scheme auth target) :
    wildcardUrl (.absolute scheme auth target) =
      if maxLength < (absolute scheme auth (wildcardTarget target)).toText.utf8ByteSize then
        .error .tooLong
      else .ok (.absolute scheme auth (wildcardTarget target)) := by
  rw [← (isAbsolute_wildcardTarget h).parse_toText, wildcardUrl, print_wildcardTarget h.auth]
  rfl

/-- The wildcard path is part of the path exactly where there is no query. -/
theorem isWildcardView_iff :
    IsWildcardView (.absolute scheme auth target) (.absolute scheme auth (wildcardTarget target)) ↔
      target.query = none := by
  obtain ⟨path, query⟩ := target
  constructor
  · intro h
    cases query with
    | none => rfl
    | some q =>
      -- The path is left as it is, and it does not end in the wildcard path behind itself.
      have hpath : path = trimSlashes path ++ wildcardPath.toList := h.path
      have hlast : path.getLast? ≠ some '/' := by
        rw [hpath, List.getLast?_append_of_ne_nil _ (by decide)]
        decide
      rw [trimSlashes_eq_self hlast] at hpath
      exact absurd (List.append_right_eq_self.1 hpath.symm) (by decide)
  · intro hquery
    obtain rfl : query = none := hquery
    exact ⟨rfl, rfl, rfl, rfl⟩

end Manager

namespace Topology

open Cluster

variable {σ : Type} {surface : Surface (StateM σ)} {base endpoint : Config}
  {exportName host : String}

/-- An address that a choice accepts is absolute. -/
theorem isAbsolute_of_resolve {state : σ}
    (h : ((resolve surface base exportName).run state).1 = .ok (.virtualWorkspace endpoint host)) :
    ∃ scheme auth target, Net.Uri.IsAbsolute scheme auth target ∧
      endpoint = { base with url := .absolute scheme auth target } := by
  obtain ⟨asked, rest, uri, hgroup, hlookup, hparse, rfl⟩ := advertised_of_resolve h
  have hname : exportName ≠ "" := by
    rintro rfl
    rw [run_resolve_of_eq surface base "" hgroup] at h
    cases h
  rw [run_resolve_of_eq surface base exportName hgroup,
    run_advertisedUrl_of_ne surface exportName hname, hlookup] at h
  rcases hfirst : firstUrl (.ok (some (host :: rest))) with fault | ⟨host', uri'⟩
  · rw [hfirst] at h
    cases h
  · obtain ⟨hhost, uri'', hparse', hscheme, -⟩ := exists_firstUrl_eq_ok_iff.1 ⟨uri', hfirst⟩
    obtain rfl : host = host' := Option.some.inj hhost
    obtain rfl : uri = uri'' := Except.ok.inj (hparse.symm.trans hparse')
    cases uri with
    | absolute scheme auth target =>
      exact ⟨scheme, auth, target, Net.Uri.isAbsolute_of_parse hparse, rfl⟩
    | authority | relative => cases hscheme

end Topology

namespace Manager

open Cluster Net Uri

variable {endpoint : Config} {host : String} {o : Options} {m : Manager} {e : Error}

/-- There is no manager for a workspace whose view has no address. -/
theorem build_of_wildcardUrl_eq_error {fault : UriFault}
    (h : wildcardUrl endpoint.url = .error fault) :
    build (.virtualWorkspace endpoint host) o =
      .error (.construction Kind.clusterAware.component fault.message) := by
  simp only [build, binding, h, bind, Except.bind]

/-- The manager for a workspace whose view has an address. -/
theorem build_of_wildcardUrl_eq_ok {url : Uri} (h : wildcardUrl endpoint.url = .ok url) :
    build (.virtualWorkspace endpoint host) o =
      match endpoint.check with
      | .error message => .error (.construction Kind.clusterAware.component message)
      | .ok () => (electionOf o).map fun election =>
        (unbound o).rebind ⟨.clusterAware, host, { endpoint with url := url }, election⟩ := by
  have hcheck : Config.check { endpoint with url := url } = endpoint.check := rfl
  simp only [build, binding, h, bind, Except.bind, hcheck]
  rcases endpoint.check with message | ⟨⟩
  · rfl
  · rcases electionOf o with error | election <;> rfl

/-- An election that is not possible is a failure of the construction. -/
theorem exists_construction_of_electionOf (h : electionOf o = .error e) :
    ∃ component message, e = .construction component message := by
  unfold electionOf at h
  split_ifs at h with hasked
  rcases hname : Election.pickNamespace o.leaderElectionNamespace o.inClusterNamespace with
    error | ns
  · have herror : error = e := by simpa [hname, bind, Except.bind] using h
    subst herror
    unfold Election.pickNamespace at hname
    split at hname
    · cases hname
    · cases hname
      exact ⟨_, _, rfl⟩
  · rcases hcheck : o.base.check with message | ⟨⟩
    · simp only [hname, hcheck, bind, Except.bind] at h
      cases h
      exact ⟨_, _, rfl⟩
    · simp only [hname, hcheck, bind, Except.bind, pure, Except.pure] at h
      cases h

/-- Why there is no manager for a workspace. -/
theorem cases_of_build_eq_error (h : build (.virtualWorkspace endpoint host) o = .error e) :
    ∃ component message, e = .construction component message ∧
      (component = Kind.clusterAware.component ∨ electionOf o = .error e) := by
  rcases hurl : wildcardUrl endpoint.url with fault | url
  · rw [build_of_wildcardUrl_eq_error hurl] at h
    exact ⟨_, _, (Except.error.inj h).symm, .inl rfl⟩
  · rw [build_of_wildcardUrl_eq_ok hurl] at h
    rcases hcheck : endpoint.check with message | ⟨⟩ <;> rw [hcheck] at h
    · exact ⟨_, _, (Except.error.inj h).symm, .inl rfl⟩
    · rcases helection : electionOf o with error | election <;> rw [helection] at h
      · obtain rfl : error = e := Except.error.inj h
        obtain ⟨component, message, rfl⟩ := exists_construction_of_electionOf helection
        exact ⟨component, message, rfl, .inr rfl⟩
      · cases h

/-- There is a manager for a workspace where the address of the view, the certificates and the
election allow for it. -/
theorem exists_build_eq_ok_iff :
    (∃ m, build (.virtualWorkspace endpoint host) o = .ok m) ↔
      (∃ url, wildcardUrl endpoint.url = .ok url) ∧ endpoint.check = .ok () ∧
        ∃ election, electionOf o = .ok election := by
  rcases hurl : wildcardUrl endpoint.url with fault | url
  · simp [build_of_wildcardUrl_eq_error hurl]
  · rw [build_of_wildcardUrl_eq_ok hurl]
    rcases endpoint.check with message | ⟨⟩
    · simp
    · rcases electionOf o with error | election <;> simp [Except.map]

/-- The workload of a manager for a workspace. -/
theorem exists_of_build_eq_ok (h : build (.virtualWorkspace endpoint host) o = .ok m) :
    ∃ url, wildcardUrl endpoint.url = .ok url ∧ m.workload = { endpoint with url := url } := by
  obtain ⟨kind, workload, host', election, hbinding, -, rfl⟩ := eq_rebind_of_build h
  obtain ⟨-, -, url, hurl, rfl⟩ := binding_virtualWorkspace hbinding
  exact ⟨url, hurl, rfl⟩

/-- **When the controllers of a workspace work on the view of all clusters.** A manager for a
workspace keeps the scheme and the authority of the address that was advertised, and puts the
wildcard path behind what is printed last; this gives the view of all clusters exactly if the
address has no query. There is such a manager exactly if the printed address is not too long, the
certificates can be used, and the election that was asked for is possible. Every failure is one of
the construction: it names the cluster-aware manager, unless the election is at fault, which has
nothing to do with the address. -/
theorem workload_isWildcardView_iff {σ : Type} {surface : Surface (StateM σ)} {state : σ}
    {base : Config} {exportName : String}
    (h : ((Topology.resolve surface base exportName).run state).1 =
      .ok (.virtualWorkspace endpoint host)) (o : Options) :
    ∃ scheme auth target, endpoint.url = .absolute scheme auth target ∧
      (∀ m, build (.virtualWorkspace endpoint host) o = .ok m →
        m.workload.url = .absolute scheme auth (wildcardTarget target) ∧
        (IsWildcardView endpoint.url m.workload.url ↔ target.query = none)) ∧
      ((∃ m, build (.virtualWorkspace endpoint host) o = .ok m) ↔
        (Uri.absolute scheme auth (wildcardTarget target)).toText.utf8ByteSize ≤ maxLength ∧
          endpoint.check = .ok () ∧ ∃ election, electionOf o = .ok election) ∧
      ∀ e, build (.virtualWorkspace endpoint host) o = .error e →
        ∃ component message, e = .construction component message ∧
          (component = Kind.clusterAware.component ∨ electionOf o = .error e) := by
  obtain ⟨scheme, auth, target, habsolute, rfl⟩ := Topology.isAbsolute_of_resolve h
  have hurl := wildcardUrl_absolute habsolute
  refine ⟨scheme, auth, target, rfl, fun m hm => ?_, ?_, fun e he => cases_of_build_eq_error he⟩
  · obtain ⟨url, hok, hworkload⟩ := exists_of_build_eq_ok hm
    have hview : m.workload.url = .absolute scheme auth (wildcardTarget target) := by
      rw [hurl] at hok
      split_ifs at hok
      rw [hworkload]
      exact (Except.ok.inj hok).symm
    refine ⟨hview, ?_⟩
    rw [hview]
    exact isWildcardView_iff
  · rw [exists_build_eq_ok_iff, hurl, ← Nat.not_lt]
    refine and_congr_left' ?_
    split_ifs with hlength
    · simp [hlength]
    · simp [hlength]

/-! ### Two addresses -/

/-- The connection to an address of the workspace at `vw.example`. -/
def endpointAt (target : PathQuery) : Config :=
  .ofUrl (.absolute "https".toList "vw.example".toList target)

/-- Options of a manager without an election. -/
def plainOptions : Options := Startup.Sequencer.plain.options .empty

/-- Any number of slashes at the end of the path is trimmed. -/
theorem slashes_trimmed_in_view :
    ((Topology.resolve (.advertising "https://vw.example/ws1//") plainOptions.base "e").run ()).1 =
        .ok (.virtualWorkspace (endpointAt ⟨"/ws1//".toList, none⟩) "https://vw.example/ws1//") ∧
      ∃ m, build (.virtualWorkspace (endpointAt ⟨"/ws1//".toList, none⟩)
          "https://vw.example/ws1//") plainOptions = .ok m ∧
        IsWildcardView (endpointAt ⟨"/ws1//".toList, none⟩).url m.workload.url ∧
        m.workload.url.toText = "https://vw.example/ws1/clusters/*" := by
  have hresolve : ((Topology.resolve (.advertising "https://vw.example/ws1//") plainOptions.base
      "e").run ()).1 = .ok (.virtualWorkspace (endpointAt ⟨"/ws1//".toList, none⟩)
        "https://vw.example/ws1//") := rfl
  obtain ⟨scheme, auth, target, hurl, hview, hbuilt, -⟩ :=
    workload_isWildcardView_iff hresolve plainOptions
  cases hurl
  obtain ⟨m, hm⟩ := hbuilt.2 ⟨by decide, rfl, none, rfl⟩
  obtain ⟨hworkload, hiff⟩ := hview m hm
  refine ⟨hresolve, m, hm, hiff.2 rfl, ?_⟩
  rw [hworkload]
  decide

/-- **The wildcard path becomes part of the query** of an address that has one, so that the
controllers do not work on the view of all clusters. -/
theorem wildcard_in_query :
    ((Topology.resolve (.advertising "https://vw.example/ws1?a=b") plainOptions.base "e").run
        ()).1 =
        .ok (.virtualWorkspace (endpointAt ⟨"/ws1".toList, some "a=b".toList⟩)
          "https://vw.example/ws1?a=b") ∧
      ∃ m, build (.virtualWorkspace (endpointAt ⟨"/ws1".toList, some "a=b".toList⟩)
          "https://vw.example/ws1?a=b") plainOptions = .ok m ∧
        m.workload.url.target = ⟨"/ws1".toList, some "a=b/clusters/*".toList⟩ ∧
        ¬ IsWildcardView (endpointAt ⟨"/ws1".toList, some "a=b".toList⟩).url m.workload.url := by
  have hurl : wildcardUrl (endpointAt ⟨"/ws1".toList, some "a=b".toList⟩).url =
      .ok (.absolute "https".toList "vw.example".toList
        ⟨"/ws1".toList, some "a=b/clusters/*".toList⟩) := rfl
  refine ⟨rfl, _, (build_of_wildcardUrl_eq_ok hurl).trans rfl, rfl, fun h => ?_⟩
  exact absurd h.query (by decide)

end Manager

end ControllerManager
