import ControllerManager.Proofs.Net.Uri
import ControllerManager.Proofs.Topology.Advertised

/-!
# The host of an advertised address

The address of a workspace has to be absolute, so that it has a scheme and an authority. An
authority need not name a host, though: in `https://:8443` it is a port alone, and the name before
the port is empty. Such an address is accepted, and so is one whose scheme is empty.

## Main definitions

* `Net.Uri.NamesHost` — an address whose scheme and host are not empty.
* `Topology.DemandsHost` — a choice that is a workspace only where the address names a host.

## Main results

* `Net.Uri.namesHost_absolute_iff` — which absolute addresses name a host.
* `Topology.resolve_of_urls` — the choice, given what is advertised.
* `Topology.demandsHost_iff` — when the choice demands a host.
* `Topology.port_alone_accepted` — an address for which it does not.
-/

namespace ControllerManager

namespace Net.Uri

/-- The address names a host: neither its scheme nor the name of the host is empty. -/
def NamesHost (u : Uri) : Prop :=
  (∃ scheme, u.scheme? = some scheme ∧ scheme ≠ []) ∧ ∃ host, u.host? = some host ∧ host ≠ []

variable {scheme auth : List Char} {target : PathQuery}

/-- No authority ends with an `@`. -/
theorem AuthorityScan.complete_of_step_at {s s' : AuthorityScan} (h : s.step '@' = .ok s') :
    s'.complete = false := by
  cases h
  simp [complete]

/-- Something stands behind the last `@` of an authority. -/
theorem IsAuthority.hostPort_ne_nil (h : IsAuthority auth) : hostPort auth ≠ [] := by
  intro hnil
  obtain ⟨scan, hscan, hcomplete⟩ := h.scan
  rcases List.eq_nil_or_concat auth with rfl | ⟨before, c, rfl⟩
  · exact h.ne_nil rfl
  · obtain rfl : c = '@' := by
      by_contra hne
      simp [hostPort, hne] at hnil
    rw [List.concat_eq_append, List.foldlM_append] at hscan
    rcases hbefore : before.foldlM AuthorityScan.step .start with fault | s
    · rw [hbefore] at hscan
      cases hscan
    · rw [hbefore] at hscan
      have hlast : s.step '@' = .ok scan := hscan
      rw [AuthorityScan.complete_of_step_at hlast] at hcomplete
      cases hcomplete

/-- The name of a host is empty where a colon comes first. -/
theorem host?_absolute_eq_nil_iff (h : IsAuthority auth) :
    (absolute scheme auth target).host? = some [] ↔ (hostPort auth).head? = some ':' := by
  have hne := h.hostPort_ne_nil
  rcases hport : hostPort auth with _ | ⟨c, rest⟩
  · exact absurd hport hne
  · by_cases hbracket : c = '['
    · simp [host?, authority?, hport, hbracket]
    · by_cases hcolon : c = ':' <;>
        simp [host?, authority?, hport, hbracket, hcolon]

/-- An absolute address names a host unless its scheme is empty, or a colon comes first behind the
name of the user. -/
theorem namesHost_absolute_iff (h : IsAuthority auth) :
    (absolute scheme auth target).NamesHost ↔
      scheme ≠ [] ∧ (hostPort auth).head? ≠ some ':' := by
  have hhost : (∃ host, (absolute scheme auth target).host? = some host ∧ host ≠ []) ↔
      (absolute scheme auth target).host? ≠ some [] := by
    simp [host?, authority?]
  simp only [NamesHost, hhost, ne_eq, host?_absolute_eq_nil_iff h, scheme?, Option.some.injEq,
    exists_eq_left']

end Net.Uri

namespace Topology

open Cluster

variable {σ : Type} {surface : Surface (StateM σ)} {state asked after : σ} {exportName url : String}
  {rest : List String}

/-! ### Addresses that are accepted -/

theorem firstUrl_of_absolute {scheme auth : List Char} {target : Net.PathQuery}
    (h : Net.Uri.parse url = .ok (.absolute scheme auth target)) :
    firstUrl (.ok (some (url :: rest))) = .ok (url, .absolute scheme auth target) := by
  simp [firstUrl, h, Net.Uri.scheme?, Net.Uri.host?, Net.Uri.authority?]

theorem firstUrl_of_not_absolute (rest : List String)
    (h : ∀ scheme auth target, Net.Uri.parse url ≠ .ok (.absolute scheme auth target)) :
    ∃ fault, firstUrl (.ok (some (url :: rest))) = .error fault ∧
      (fault = .notAbsolute url ∨ ∃ reason, fault = .invalidUrl url reason) := by
  rcases hparse : Net.Uri.parse url with reason | uri
  · exact ⟨.invalidUrl url reason, by simp [firstUrl, hparse], .inr ⟨reason, rfl⟩⟩
  · refine ⟨.notAbsolute url, ?_, .inl rfl⟩
    cases uri with
    | absolute scheme auth target => exact absurd hparse (h scheme auth target)
    | authority auth => simp [firstUrl, hparse, Net.Uri.scheme?]
    | relative target => simp [firstUrl, hparse, Net.Uri.scheme?]

variable (base : Config)

/-- The choice, where the cluster serves the group of exports and the export advertises
addresses. -/
theorem resolve_of_urls (hgroup : (surface.hasGroup exportGroup).run state = (.ok true, asked))
    (hname : exportName ≠ "")
    (hurls : (surface.workspaceUrls exportName).run asked = (.ok (some (url :: rest)), after)) :
    ((resolve surface base exportName).run state).1 =
      ((firstUrl (.ok (some (url :: rest)))).mapError (Fault.toError exportName)).map
        fun (host, uri) => .virtualWorkspace { base with url := uri } host := by
  rw [run_resolve_of_eq surface base exportName hgroup,
    run_advertisedUrl_of_ne surface exportName hname, hurls]

/-! ### Addresses that name a host -/

/-- A choice that demands a host of the address that an export advertises. If it is the workspace,
then its host is the address as it was advertised, and its endpoint names a host. If the address
does not name a host, then there is an error that names the export. -/
def DemandsHost (exportName url : String) (choice : Except Error Topology) : Prop :=
  (∀ endpoint host, choice = .ok (.virtualWorkspace endpoint host) →
    host = url ∧ endpoint.url.NamesHost) ∧
  ((∀ uri, Net.Uri.parse url = .ok uri → ¬ uri.NamesHost) →
    ∃ message, choice = .error (.resolution exportName message))

/-- **Which endpoints are accepted.** The choice is the workspace exactly if the first advertised
address is absolute, and then its endpoint is this address and its host the advertised text. Any
other address is an error that names the export. The choice demands a host of the address unless
that is absolute with an empty scheme, or with a colon first behind the name of the user. -/
theorem demandsHost_iff (hgroup : (surface.hasGroup exportGroup).run state = (.ok true, asked))
    (hname : exportName ≠ "")
    (hurls : (surface.workspaceUrls exportName).run asked = (.ok (some (url :: rest)), after)) :
    (∀ scheme auth target, Net.Uri.parse url = .ok (.absolute scheme auth target) →
      ((resolve surface base exportName).run state).1 =
        .ok (.virtualWorkspace { base with url := .absolute scheme auth target } url)) ∧
    ((∀ scheme auth target, Net.Uri.parse url ≠ .ok (.absolute scheme auth target)) →
      ∃ message, ((resolve surface base exportName).run state).1 =
        .error (.resolution exportName message)) ∧
    (DemandsHost exportName url ((resolve surface base exportName).run state).1 ↔
      ∀ scheme auth target, Net.Uri.parse url = .ok (.absolute scheme auth target) →
        scheme ≠ [] ∧ (Net.Uri.hostPort auth).head? ≠ some ':') := by
  have haccepted : ∀ scheme auth target,
      Net.Uri.parse url = .ok (.absolute scheme auth target) →
      ((resolve surface base exportName).run state).1 =
        .ok (.virtualWorkspace { base with url := .absolute scheme auth target } url) := by
    intro scheme auth target hparse
    rw [resolve_of_urls base hgroup hname hurls, firstUrl_of_absolute hparse]
    rfl
  have hrejected : (∀ scheme auth target,
      Net.Uri.parse url ≠ .ok (.absolute scheme auth target)) →
      ∃ message, ((resolve surface base exportName).run state).1 =
        .error (.resolution exportName message) := by
    intro h
    rw [resolve_of_urls base hgroup hname hurls]
    obtain ⟨fault, hfirst, rfl | ⟨reason, rfl⟩⟩ := firstUrl_of_not_absolute rest h
    · exact ⟨_, by rw [hfirst]; rfl⟩
    · exact ⟨_, by rw [hfirst]; rfl⟩
  refine ⟨haccepted, hrejected, ?_, fun h => ⟨?_, fun hnone => hrejected ?_⟩⟩
  · rintro ⟨hworkspace, -⟩ scheme auth target hparse
    have hisAuth := (Net.Uri.isAbsolute_of_parse hparse).auth
    exact (Net.Uri.namesHost_absolute_iff hisAuth).1
      (hworkspace _ _ (haccepted scheme auth target hparse)).2
  · intro endpoint host hchoice
    by_cases habsolute :
        ∃ scheme auth target, Net.Uri.parse url = .ok (.absolute scheme auth target)
    · obtain ⟨scheme, auth, target, hparse⟩ := habsolute
      cases (haccepted scheme auth target hparse).symm.trans hchoice
      have hisAuth := (Net.Uri.isAbsolute_of_parse hparse).auth
      exact ⟨rfl, (Net.Uri.namesHost_absolute_iff hisAuth).2 (h scheme auth target hparse)⟩
    · simp only [not_exists] at habsolute
      obtain ⟨message, herror⟩ := hrejected habsolute
      cases herror.symm.trans hchoice
  · intro scheme auth target hparse
    have hisAuth := (Net.Uri.isAbsolute_of_parse hparse).auth
    exact hnone _ hparse
      ((Net.Uri.namesHost_absolute_iff hisAuth).2 (h scheme auth target hparse))

/-! ### A name and a port -/

/-- An address with a name and a port is accepted as it is. -/
theorem demandsHost_name_and_port :
    DemandsHost "e" "https://vw.example:8443"
      ((resolve (.advertising "https://vw.example:8443") exampleBase "e").run ()).1 := by
  have hparse : Net.Uri.parse "https://vw.example:8443" =
      .ok (.absolute "https".toList "vw.example:8443".toList ⟨['/'], none⟩) := rfl
  have hdemands := @demandsHost_iff _ (.advertising "https://vw.example:8443") () () () "e"
    "https://vw.example:8443" [] exampleBase rfl (by decide) rfl
  refine hdemands.2.2.2 fun scheme auth target h => ?_
  cases hparse.symm.trans h
  exact ⟨by decide, by decide⟩

/-- **A port alone is accepted**, although the name of the host is empty. -/
theorem port_alone_accepted :
    ((resolve (.advertising "https://:8443") exampleBase "e").run ()).1 =
        .ok (.virtualWorkspace
          { exampleBase with url := .absolute "https".toList ":8443".toList ⟨['/'], none⟩ }
          "https://:8443") ∧
      (Net.Uri.absolute "https".toList ":8443".toList ⟨['/'], none⟩).host? = some [] ∧
      ¬ DemandsHost "e" "https://:8443"
        ((resolve (.advertising "https://:8443") exampleBase "e").run ()).1 := by
  have hparse : Net.Uri.parse "https://:8443" =
      .ok (.absolute "https".toList ":8443".toList ⟨['/'], none⟩) := rfl
  have hchoice : ((resolve (.advertising "https://:8443") exampleBase "e").run ()).1 =
      .ok (.virtualWorkspace
        { exampleBase with url := .absolute "https".toList ":8443".toList ⟨['/'], none⟩ }
        "https://:8443") := by
    rw [resolve_of_urls exampleBase rfl (by decide) rfl, firstUrl_of_absolute hparse]
    rfl
  refine ⟨hchoice, by decide, fun h => ?_⟩
  obtain ⟨-, -, host, hhost, hne⟩ := h.1 _ _ hchoice
  exact hne (Option.some.inj hhost).symm

end Topology

end ControllerManager
