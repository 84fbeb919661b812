import ControllerManager.Proofs.Topology.Choice

/-!
# The workspace that an export advertises

The body of an export has a list of entries, and each entry should have an address as a text. The
choice of a topology takes the first text that it finds. Where the first entry has an address, this
is the address of the first entry. Where it has none, a later entry is taken instead, if one has an
absolute address; otherwise there is an error that names the export. A body that is no object with
metadata is such an error as well.

## Main definitions

* `Cluster.workspaceEntries`, `Cluster.firstEntryUrl?` — the entries of a body, and the address of
  the first one.
* `Topology.Serves` — an exchange that serves an export with a body.
* `Topology.exportUrls` — the addresses that the choice makes of a body.
* `Topology.FirstEntryDecides` — a choice that follows the first entry.

## Main results

* `Topology.resolve_of_serves` — the choice takes the first text among the entries.
* `Topology.first_entry_decides_iff` — when the choice follows the first entry.
* `Topology.later_entry_chosen` — a body for which it does not.
-/

namespace ControllerManager

/-! ### Bodies of exports -/

namespace Cluster

/-- The entries under `status.virtualWorkspaces`, and none where there is no array. -/
def workspaceEntries (body : Json) : List Json :=
  (((body.get? "status").bind (·.get? "virtualWorkspaces")).bind Json.items?).getD []

/-- The text under `url` in an entry. -/
def entryUrl? (entry : Json) : Option String := (entry.get? "url").bind Json.str?

/-- The text under `url` in the first entry. -/
def firstEntryUrl? (body : Json) : Option String := (workspaceEntries body).head?.bind entryUrl?

theorem advertisedUrls_eq_filterMap (body : Json) :
    advertisedUrls body = (workspaceEntries body).filterMap entryUrl? := by
  unfold advertisedUrls workspaceEntries
  cases ((body.get? "status").bind (·.get? "virtualWorkspaces")).bind Json.items? <;> rfl

/-- The first text comes from the first entry that has one. -/
theorem head?_advertisedUrls (body : Json) :
    (advertisedUrls body).head? = (workspaceEntries body).findSome? entryUrl? := by
  rw [advertisedUrls_eq_filterMap, List.head?_filterMap]

theorem head?_advertisedUrls_of_firstEntryUrl? {body : Json} {url : String}
    (h : firstEntryUrl? body = some url) : (advertisedUrls body).head? = some url := by
  obtain ⟨entry, hentry, hurl⟩ := Option.bind_eq_some_iff.1 h
  obtain ⟨rest, hrest⟩ := List.head?_eq_some_iff.1 hentry
  rw [head?_advertisedUrls, hrest, List.findSome?_cons, hurl]

end Cluster

namespace Topology

open Cluster

variable {σ : Type} {exchange : Exchange (StateM σ)} {state : σ} {exportName text : String}
  {body : Json}

/-! ### The first text -/

/-- A text that is an absolute address. -/
def Usable (url : String) : Prop :=
  ∃ uri, Net.Uri.parse url = .ok uri ∧ uri.scheme?.isSome ∧ uri.host?.isSome

/-- The first text counts, and it has to be an absolute address. -/
theorem exists_firstUrl_eq_ok_iff {urls : List String} {host : String} :
    (∃ uri, firstUrl (.ok (some urls)) = .ok (host, uri)) ↔
      urls.head? = some host ∧ Usable host := by
  rcases urls with _ | ⟨url, rest⟩
  · simp [firstUrl]
  · constructor
    · rintro ⟨uri, h⟩
      unfold firstUrl at h
      dsimp only at h
      split at h
      · cases h
      case _ uri' hparse =>
        split at h
        · cases h
        case _ habsolute =>
          cases h
          have habsolute : uri.scheme?.isSome ∧ uri.host?.isSome := by
            simpa [Option.isSome_iff_ne_none] using habsolute
          exact ⟨rfl, uri, hparse, habsolute⟩
    · rintro ⟨hhead, uri, hparse, hscheme, hhost⟩
      obtain rfl : url = host := Option.some.inj hhead
      have habsolute : (uri.scheme?.isNone || uri.host?.isNone) = false := by
        simp [Option.isNone_eq_false_iff, hscheme, hhost]
      exact ⟨uri, by simp [firstUrl, hparse, habsolute]⟩

/-! ### Exports that are served -/

/-- The exchange serves the group of exports, and then an export with this text as its body. -/
def Serves (exchange : Exchange (StateM σ)) (state : σ) (exportName text : String) : Prop :=
  ∃ asked after target status,
    ((Surface.ofExchange exchange).hasGroup exportGroup).run state = (.ok true, asked) ∧
    Surface.exportTarget exportName = .ok target ∧
    (exchange target).run asked = (.ok ⟨status, text⟩, after) ∧
    Answer.isRefusal ⟨status, text⟩ = false

/-- The addresses in the body of an export, if it is one. -/
def exportUrls (text : String) : Except Error (Option (List String)) :=
  match Answer.read Admission.Object.shape ⟨200, text⟩ with
  | .ok body => .ok (some (advertisedUrls body))
  | .error fault => .error (.kube fault)

theorem exportUrls_of_parse (h : Admission.Object.shape.parse text = .ok body) :
    exportUrls text = .ok (some (advertisedUrls body)) := by
  have hread : Answer.read Admission.Object.shape ⟨200, text⟩ = .ok body := by
    simp [Answer.read, Answer.isRefusal, h]
  rw [exportUrls, hread]

theorem exists_parse_of_exportUrls {urls : List String} (h : exportUrls text = .ok (some urls)) :
    ∃ body, Admission.Object.shape.parse text = .ok body ∧ urls = advertisedUrls body := by
  rcases hparse : Admission.Object.shape.parse text with fault | body
  · cases fault <;> simp [exportUrls, Answer.read, Answer.isRefusal, hparse] at h
  · rw [exportUrls_of_parse hparse] at h
    cases h
    exact ⟨body, rfl, rfl⟩

/-- A first address comes from a body that is an export. -/
theorem exists_of_firstUrl_exportUrls {host : String} {uri : Net.Uri}
    (h : firstUrl (exportUrls text) = .ok (host, uri)) :
    ∃ body, Admission.Object.shape.parse text = .ok body ∧
      (advertisedUrls body).head? = some host ∧ Usable host := by
  rcases hurls : exportUrls text with error | _ | urls
  · rw [hurls] at h
    cases h
  · rw [hurls] at h
    cases h
  · obtain ⟨body, hparse, rfl⟩ := exists_parse_of_exportUrls hurls
    exact ⟨body, hparse, exists_firstUrl_eq_ok_iff.1 ⟨uri, hurls ▸ h⟩⟩

theorem ne_empty_of_exportTarget {target : Target}
    (h : Surface.exportTarget exportName = .ok target) : exportName ≠ "" := by
  rintro rfl
  cases h

theorem run_get {shape : Json.Shape} {asked after : σ} {target : Target} {answer : Answer}
    (hanswer : (exchange target).run asked = (.ok answer, after)) :
    (Surface.get exchange shape target).run asked = (answer.read shape, after) := by
  unfold Surface.get
  rw [StateT.run_bind, hanswer]
  rfl

theorem run_workspaceUrls_ofExchange {asked after : σ} {target : Target} {status : Nat}
    (htarget : Surface.exportTarget exportName = .ok target)
    (hanswer : (exchange target).run asked = (.ok ⟨status, text⟩, after))
    (hstatus : Answer.isRefusal ⟨status, text⟩ = false) :
    ((Surface.ofExchange exchange).workspaceUrls exportName).run asked =
      (exportUrls text, after) := by
  simp only [Surface.ofExchange, htarget]
  rw [StateT.run_bind, run_get hanswer, exportUrls]
  simp only [Answer.read, hstatus, show Answer.isRefusal ⟨200, text⟩ = false from rfl]
  rcases Admission.Object.shape.parse text with (_ | _) | body <;> rfl

/-- The choice takes the first text among the entries of the body. -/
theorem resolve_of_serves (h : Serves exchange state exportName text) (base : Config) :
    ((resolve (Surface.ofExchange exchange) base exportName).run state).1 =
      ((firstUrl (exportUrls text)).mapError (Fault.toError exportName)).map
        fun (host, uri) => .virtualWorkspace { base with url := uri } host := by
  obtain ⟨asked, after, target, status, hgroup, htarget, hanswer, hstatus⟩ := h
  rw [run_resolve_of_eq _ base exportName hgroup,
    run_advertisedUrl_of_ne _ exportName (ne_empty_of_exportTarget htarget),
    run_workspaceUrls_ofExchange htarget hanswer hstatus]

/-- A choice that follows the first entry of a body: the host of a workspace is its address, and
without an address, or if the body is no object with metadata, there is an error that names the
export. -/
def FirstEntryDecides (exportName text : String) (choice : Except Error Topology) : Prop :=
  (∀ endpoint host, choice = .ok (.virtualWorkspace endpoint host) →
    ∃ body, Admission.Object.shape.parse text = .ok body ∧ firstEntryUrl? body = some host) ∧
  ((∀ body, Admission.Object.shape.parse text = .ok body → firstEntryUrl? body = none) →
    ∃ message, choice = .error (.resolution exportName message))

/-- **The choice follows the first entry** unless that has no text under `url`, and the first text
in the entries behind it is an absolute address. The body may be any text. -/
theorem first_entry_decides_iff (h : Serves exchange state exportName text) (base : Config) :
    FirstEntryDecides exportName text
        ((resolve (Surface.ofExchange exchange) base exportName).run state).1 ↔
      ¬ ∃ body, Admission.Object.shape.parse text = .ok body ∧ firstEntryUrl? body = none ∧
        ∃ url, (advertisedUrls body).head? = some url ∧ Usable url := by
  rw [resolve_of_serves h base]
  constructor
  · rintro ⟨-, herror⟩ ⟨body, hparse, hnone, url, hurl⟩
    obtain ⟨uri, hfirst⟩ := exists_firstUrl_eq_ok_iff.2 hurl
    obtain ⟨message, hmessage⟩ := herror fun body' hparse' => by
      obtain rfl : body = body' := Except.ok.inj (hparse.symm.trans hparse')
      exact hnone
    rw [exportUrls_of_parse hparse, hfirst] at hmessage
    cases hmessage
  · intro hfirst
    rcases hresult : firstUrl (exportUrls text) with fault | ⟨host, uri⟩
    · refine ⟨nofun, fun _ => ?_⟩
      have hcases := firstUrl_cases exportName (exportUrls text)
      rw [hresult] at hcases
      rcases hcases with ⟨_, _, h⟩ | ⟨message, h⟩
      · cases h
      · exact ⟨message, by rw [h]; rfl⟩
    · obtain ⟨body, hparse, hurl⟩ := exists_of_firstUrl_exportUrls hresult
      refine ⟨fun endpoint host' hchoice => ⟨body, hparse, ?_⟩, fun hnone =>
        absurd ⟨body, hparse, hnone body hparse, host, hurl⟩ hfirst⟩
      cases hchoice
      cases hentry : firstEntryUrl? body with
      | none => exact absurd ⟨body, hparse, hentry, host, hurl⟩ hfirst
      | some url => rw [← hurl.1, head?_advertisedUrls_of_firstEntryUrl? hentry]

/-! ### Two bodies without an address in the first entry -/

/-- A listing of the group of exports. -/
def exportListing : Json := .obj [("groups", .arr [.obj [("name", .str exportGroup)]])]

/-- A cluster that serves the group of exports, and under any other path this body. -/
def bodyExchange (body : Json) : Exchange (StateM Unit) := fun target =>
  pure (.ok ⟨200, (if target = "/apis" then exportListing else body).toText⟩)

/-- The body of an export with these entries. -/
def entriesBody (entries : List Json) : Json :=
  .obj [("status", .obj [("virtualWorkspaces", .arr entries)])]

theorem serves_bodyExchange (body : Json) :
    Serves (bodyExchange body) () "e" body.toText := by
  have hlisting : Answer.read listingShape ⟨200, exportListing.toText⟩ = .ok exportListing := rfl
  have hanswer : (bodyExchange body "/apis").run () = (.ok ⟨200, exportListing.toText⟩, ()) := rfl
  refine ⟨(), (), "/apis/apis.kcp.dev/v1alpha1/apiexports/e", 200, ?_, rfl, rfl, rfl⟩
  simp only [Surface.ofExchange]
  rw [StateT.run_bind, run_get hanswer, hlisting]
  rfl

/-- The base connection of the choices below. -/
def exampleBase : Config := .ofUrl (.absolute "https".toList "base.example".toList ⟨['/'], none⟩)

/-- A path is no address of a workspace, so that it is not chosen. -/
def pathBehind : Json := entriesBody [.obj [("url", .int 1)], .obj [("url", .str "/b")]]

theorem parse_pathBehind : Admission.Object.shape.parse pathBehind.toText = .ok pathBehind := rfl

theorem first_entry_decides_pathBehind :
    Serves (bodyExchange pathBehind) () "e" pathBehind.toText ∧
      FirstEntryDecides "e" pathBehind.toText
        ((resolve (Surface.ofExchange (bodyExchange pathBehind)) exampleBase "e").run ()).1 := by
  have hserves := serves_bodyExchange pathBehind
  refine ⟨hserves, (first_entry_decides_iff hserves exampleBase).2 ?_⟩
  rintro ⟨body, hparse', -, url, hurl, uri, hparse, hscheme, -⟩
  obtain rfl : pathBehind = body := Except.ok.inj (parse_pathBehind.symm.trans hparse')
  cases hurl
  have hpath : Net.Uri.parse "/b" = .ok (.relative ⟨"/b".toList, none⟩) := rfl
  cases hpath.symm.trans hparse
  cases hscheme

/-- The first entry is empty, and there is an address behind it. -/
def addressBehind : Json := entriesBody [.obj [], .obj [("url", .str "https://b.example")]]

theorem parse_addressBehind :
    Admission.Object.shape.parse addressBehind.toText = .ok addressBehind := rfl

/-- An entry without an address is passed over for the one behind it. -/
theorem later_entry_chosen :
    Serves (bodyExchange addressBehind) () "e" addressBehind.toText ∧
      Admission.Object.shape.parse addressBehind.toText = .ok addressBehind ∧
      firstEntryUrl? addressBehind = none ∧
      ((resolve (Surface.ofExchange (bodyExchange addressBehind)) exampleBase "e").run ()).1 =
        .ok (.virtualWorkspace
          { exampleBase with
            url := .absolute "https".toList "b.example".toList ⟨['/'], none⟩ }
          "https://b.example") ∧
      ¬ FirstEntryDecides "e" addressBehind.toText
        ((resolve (Surface.ofExchange (bodyExchange addressBehind)) exampleBase "e").run ()).1 := by
  have hserves := serves_bodyExchange addressBehind
  have hfirst : firstUrl (.ok (some (advertisedUrls addressBehind))) =
      .ok ("https://b.example", .absolute "https".toList "b.example".toList ⟨['/'], none⟩) := rfl
  have hchoice := resolve_of_serves hserves exampleBase
  rw [exportUrls_of_parse parse_addressBehind, hfirst] at hchoice
  refine ⟨hserves, parse_addressBehind, rfl, hchoice, fun h => ?_⟩
  obtain ⟨body, hparse, hentry⟩ := h.1 _ _ hchoice
  obtain rfl : addressBehind = body := Except.ok.inj (parse_addressBehind.symm.trans hparse)
  cases hentry

end Topology

end ControllerManager
