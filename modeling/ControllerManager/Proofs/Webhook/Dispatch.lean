import ControllerManager.Manager.Registration
import ControllerManager.Proofs.Http.Route
import ControllerManager.Proofs.Manager.Course
import ControllerManager.Proofs.Manager.Lapse
import ControllerManager.Proofs.Manager.Registration
import ControllerManager.Proofs.Registry.Entries

/-!
# The dispatch of webhooks

A manager accepts a webhook at every path that starts with a slash and is not taken as a text, and
serves it at what the path means as a pattern. Both agree exactly if the accepted paths have no
braces and no segment that starts with a reserved character. With any other path among them the
webhooks cannot be served at all, or a request that is posted elsewhere is judged.

## Main definitions

* `Manager.accepted` — the webhooks of registrations that were accepted.
* `Webhook.Service.Dispatches` — a service that asks the webhook at exactly the path of a request.
* `Manager.Honours` — a manager that starts and serves webhooks so.

## Main results

* `Manager.mem_entries_registerAll` — a manager has the webhooks that it accepted.
* `Manager.honours_iff_isPlain` — when a manager serves what it accepted.
* `Manager.captures_not_honoured` — accepted webhooks of which a run dies, and an accepted webhook
  that judges what was posted elsewhere.
-/

namespace ControllerManager

open Http

namespace Webhook.Service

/-- A request whose body is not said to be JSON is refused, but the webhook is there. -/
def probe (path : List Char) : Request := ⟨.post, path, none, []⟩

/-- The service asks the webhook at exactly the path of a posted request, and no other one. -/
structure Dispatches (s : Service) (webhooks : List (String × Mounted)) : Prop where
  answers : ∀ e ∈ webhooks, ∀ request : Request, request.method = .post →
    request.path = e.1.toList → s.respond request = post e.2 request
  refuses : ∀ request : Request, request.method = .post →
    (∀ e ∈ webhooks, request.path ≠ e.1.toList) → s.respond request = (.notFound, none)

variable {s : Service} {request : Request}

theorem respond_of_lookup {webhook : Mounted} {captures : List (List Char)}
    (hmethod : request.method = .post)
    (h : s.routes.lookup request.path = some (webhook, captures)) :
    s.respond request = post webhook request := by
  simp only [respond, h, hmethod]

theorem respond_of_lookup_eq_none (h : s.routes.lookup request.path = none) :
    s.respond request = (.notFound, none) := by
  simp only [respond, h]

theorem respond_probe_ne {path : List Char} (h : s.routes.lookup path ≠ none) :
    s.respond (probe path) ≠ (.notFound, none) := by
  obtain ⟨⟨webhook, captures⟩, h⟩ := Option.ne_none_iff_exists'.1 h
  rw [respond_of_lookup rfl h]
  intro heq
  have hstatus := congrArg (·.1.status) heq
  exact absurd hstatus (by simp [post, readReview, probe, declaresJson, Refusal.response,
    Response.text, Response.notFound])

end Webhook.Service

namespace Manager

open Webhook (Mounted)

variable {m m' : Manager}

/-! ### Accepted webhooks -/

/-- The webhook that a registration asks for, with its path. -/
def Registration.webhook? : Registration → Option (String × Mounted)
  | .webhook path name handler => some (path, ⟨name, handler⟩)
  | _ => none

/-- The webhooks of registrations that were accepted, in order. -/
def accepted (m : Manager) : List Registration → List (String × Mounted)
  | [] => []
  | r :: rest =>
    (if (m.register r).2.isNone then r.webhook?.toList else []) ++ accepted (m.register r).1 rest

theorem addWebhook_eq_ok {path name : String} {handler : Admission.Handler}
    (h : m.addWebhook path name handler = .ok m') : path.toList.head? = some '/' ∧
      m.webhooks.insert? path ⟨name, handler⟩ = some m'.webhooks := by
  unfold addWebhook at h
  split_ifs at h with hslash
  refine ⟨by simpa using hslash, ?_⟩
  split at h
  · cases h
    assumption
  · cases h

/-- What a registration does to the webhooks. -/
theorem register_cases (m : Manager) (r : Registration) :
    (∃ e, (m.register r).2 = none ∧ r.webhook? = some e ∧ e.1.toList.head? = some '/' ∧
        m.webhooks.insert? e.1 e.2 = some (m.register r).1.webhooks) ∨
      (m.register r).1.webhooks = m.webhooks ∧ ((m.register r).2 = none → r.webhook? = none) := by
  cases r with
  | controller name controller =>
    right
    simp only [register, addController]
    cases m.controllers.add? name controller <;> exact ⟨rfl, fun _ => rfl⟩
  | controllers members =>
    have hsame : (m.addControllers members).1.webhooks = m.webhooks := by rw [addControllers_fst]
    exact .inr ⟨hsame, fun _ => rfl⟩
  | webhook path name handler =>
    simp only [register]
    rcases h : m.addWebhook path name handler with error | m'
    · exact .inr ⟨rfl, by simp [orKeep]⟩
    · obtain ⟨hslash, hinsert⟩ := addWebhook_eq_ok h
      exact .inl ⟨_, rfl, rfl, hslash, hinsert⟩
  | healthz name health =>
    right
    simp only [register, addHealthz]
    cases m.healthz.insert? name health <;> exact ⟨rfl, fun _ => rfl⟩
  | readyz name health =>
    right
    simp only [register, addReadyz]
    cases m.readyz.insert? name health <;> exact ⟨rfl, fun _ => rfl⟩
  | defaults values => exact .inr ⟨rfl, fun _ => rfl⟩

/-- After registrations a manager has the webhooks that it had, and those that it accepted. -/
theorem mem_entries_registerAll (m : Manager) (rs : List Registration) {e : String × Mounted} :
    e ∈ (m.registerAll rs).1.webhooks.entries ↔ e ∈ m.webhooks.entries ∨ e ∈ m.accepted rs := by
  induction rs generalizing m with
  | nil => simp [registerAll, accepted]
  | cons r rest ih =>
    simp only [registerAll, accepted, ih, List.mem_append]
    rcases register_cases m r with ⟨e', hnone, hwebhook, -, hinsert⟩ | ⟨hsame, hnone⟩
    · rw [Catalog.mem_entries_of_insert? hinsert, hnone, hwebhook]
      simp only [Option.isNone_none, if_true, Option.toList_some, List.mem_singleton]
      tauto
    · have hfirst : (if (m.register r).2.isNone then r.webhook?.toList else []) = [] := by
        split_ifs with haccepted
        · rw [hnone (Option.isNone_iff_eq_none.1 haccepted)]
          rfl
        · rfl
      rw [hsame, hfirst]
      simp

/-- Accepted paths start with a slash. -/
theorem head?_of_mem_accepted {rs : List Registration} {e : String × Mounted}
    (h : e ∈ m.accepted rs) : e.1.toList.head? = some '/' := by
  induction rs generalizing m with
  | nil => cases h
  | cons r rest ih =>
    rcases List.mem_append.1 h with h | h
    · split_ifs at h with haccepted
      · rcases register_cases m r with ⟨e', -, hwebhook, hslash, -⟩ | ⟨-, hnone⟩
        · rw [hwebhook, Option.toList_some, List.mem_singleton] at h
          rwa [h]
        · rw [hnone (Option.isNone_iff_eq_none.1 haccepted)] at h
          cases h
      · cases h
    · exact ih h

/-! ### What is served -/

/-- A manager starts without dying of the webhooks, and serves them at their paths. -/
structure Honours (m : Manager) (webhooks : List (String × Mounted)) : Prop where
  starts : ∀ s, (Run.start m s).phase ≠ .crashed
  dispatches : ∃ s, Webhook.Service.build? m.webhooks = some s ∧ s.Dispatches webhooks

theorem start_ne_crashed {s : Webhook.Service} (h : Webhook.Service.build? m.webhooks = some s)
    (surroundings : Surroundings) : (Run.start m surroundings).phase ≠ .crashed := by
  obtain ⟨error, -, heq⟩ | ⟨servers, -, ⟨hnone, -⟩ | ⟨-, ⟨election, -, heq⟩ | ⟨-, heq⟩⟩⟩ :=
    Run.start_cases m surroundings
  · rw [heq]
    intro hcrashed
    cases hcrashed
  · cases h.symm.trans hnone
  · rw [heq]
    intro hcrashed
    cases hcrashed
  · rw [heq]
    intro hcrashed
    cases hcrashed

theorem honours_of_isPlain {rs : List Registration} (hfresh : m.webhooks = .empty)
    (h : ∀ e ∈ m.accepted rs, Route.IsPlain e.1) :
    (m.registerAll rs).1.Honours (m.accepted rs) := by
  have hmem : ∀ e, e ∈ (m.registerAll rs).1.webhooks.entries ↔ e ∈ m.accepted rs := by
    intro e
    rw [mem_entries_registerAll, hfresh]
    simp [Catalog.empty]
  have hparse : ∀ e ∈ (m.registerAll rs).1.webhooks.entries,
      Route.parse? e.1 = some (Route.ofText e.1.toList) := by
    intro e he
    have he := (hmem e).1 he
    exact Route.parse?_of_isPlain (head?_of_mem_accepted he) (h e he)
  have hliteral : RouteTable.AreLiteral (m.registerAll rs).1.webhooks.entries :=
    fun e he => ⟨_, hparse e he⟩
  have hnames := (m.registerAll rs).1.webhooks.nodup_names
  obtain ⟨table, htable⟩ := RouteTable.exists_build?_of_areLiteral hnames hliteral
  have hservice : Webhook.Service.build? (m.registerAll rs).1.webhooks = some ⟨table⟩ := by
    rw [Webhook.Service.build?, htable]
    rfl
  refine ⟨start_ne_crashed hservice, _, hservice, ?_, ?_⟩
  · intro e he request hmethod hpath
    have he := (hmem e).2 he
    obtain ⟨captures, hlookup⟩ :=
      RouteTable.lookup_of_areLiteral hnames hliteral htable he (hparse e he)
    exact Webhook.Service.respond_of_lookup hmethod (by rw [hpath]; exact hlookup)
  · intro request hmethod hpath
    refine Webhook.Service.respond_of_lookup_eq_none
      (RouteTable.lookup_eq_none_of_areLiteral hliteral htable fun e he hparse' => ?_)
    have htext := Option.some.inj ((hparse e he).symm.trans hparse')
    exact hpath e ((hmem e).1 he) (Route.ofText_injective htext).symm

/-- Where webhooks are served at their paths only, a path that has the form of one of their patterns
is one of them. -/
theorem exists_eq_of_matches {webhooks : List (String × Mounted)} {s : Webhook.Service}
    (h : s.Dispatches webhooks) {route : Route} {webhook : Mounted} {path : List Char}
    (hroute : (route, webhook) ∈ s.routes) (hmatch : route.Matches path) :
    ∃ e ∈ webhooks, path = e.1.toList := by
  by_contra hnone
  refine Webhook.Service.respond_probe_ne (RouteTable.lookup_ne_none hmatch hroute)
    (h.refuses _ rfl fun e he heq => hnone ⟨e, he, heq⟩)

/-- Where webhooks are served at their paths only, each path stands for a text that is one of these
paths. A capture would have the form of texts that are longer than all of them. -/
theorem exists_text_of_dispatches {webhooks : List (String × Mounted)} {s : Webhook.Service}
    (h : s.Dispatches webhooks) {path : String} {route : Route} {webhook : Mounted}
    (hparse : Route.parse? path = some route) (hroute : (route, webhook) ∈ s.routes) :
    ∃ e ∈ webhooks, route = Route.ofText e.1.toList := by
  let longest := (webhooks.map fun e => e.1.toList).flatten.length
  rcases Route.eq_ofText_or_lt_fill longest route with ⟨text, rfl⟩ | hlong
  · obtain ⟨e, he, rfl⟩ := exists_eq_of_matches h hroute (Route.matches_ofText_iff.2 rfl)
    exact ⟨e, he, rfl⟩
  · obtain ⟨e, he, heq⟩ := exists_eq_of_matches h hroute
      ((Route.parse?_eq_some hparse).2.matches_fill longest)
    have hmem : e.1.toList ∈ webhooks.map fun e => e.1.toList := List.mem_map.2 ⟨e, he, rfl⟩
    have hle : e.1.toList.length ≤ longest := (List.sublist_flatten_of_mem hmem).length_le
    rw [heq] at hlong
    omega

theorem isPlain_of_honours {rs : List Registration}
    (h : (m.registerAll rs).1.Honours (m.accepted rs)) {e : String × Mounted}
    (he : e ∈ m.accepted rs) : Route.IsPlain e.1 := by
  obtain ⟨-, s, hbuild, hdispatches⟩ := h
  obtain ⟨table, htable, rfl⟩ := Option.map_eq_some_iff.1 hbuild
  -- By induction on the length: a path with a doubled brace leads to a shorter path with a brace.
  induction hlength : e.1.toList.length using Nat.strong_induction_on generalizing e with
  | _ n ih =>
    obtain ⟨route, hparse, hroute⟩ :=
      RouteTable.exists_parse?_of_build? htable ((mem_entries_registerAll m rs).2 (.inr he))
    obtain ⟨e', he', rfl⟩ := exists_text_of_dispatches hdispatches hparse hroute
    refine ⟨?_, (Route.parse?_eq_some hparse).1⟩
    by_contra hbrace
    obtain ⟨⟨c, hc, hcbrace⟩, hlt⟩ := Route.brace_of_parse? hparse (by simpa using hbrace)
    obtain ⟨hplain, -⟩ := ih _ (hlength ▸ hlt) he' rfl
    exact Bool.false_ne_true ((hplain c hc).symm.trans hcbrace)

/-- **When accepted webhooks are served.** A manager that starts with registrations serves all
webhooks that it accepted at their paths, and nothing else, exactly if every accepted path stands
for itself. -/
theorem honours_iff_isPlain (rs : List Registration) (hfresh : m.webhooks = .empty) :
    (m.registerAll rs).1.Honours (m.accepted rs) ↔ ∀ e ∈ m.accepted rs, Route.IsPlain e.1 :=
  ⟨fun h _ he => isPlain_of_honours h he, honours_of_isPlain hfresh⟩

/-- Registrations of webhooks that allow everything. -/
def openWebhooks (paths : List String) : List Registration :=
  paths.map fun path => .webhook path path Admission.allowAll

/-- Webhooks at two paths, of which the first is asked for twice. -/
theorem plain_paths_honoured : ∃ (m : Manager) (rs : List Registration), m.webhooks = .empty ∧
    (m.accepted rs).map (·.1) = ["/mutate-a", "/validate-a"] ∧
    (m.registerAll rs).1.Honours (m.accepted rs) := by
  have hpaths : ((soleManager 0 []).accepted
      (openWebhooks ["/mutate-a", "no-slash", "/mutate-a", "/validate-a"])).map (·.1) =
        ["/mutate-a", "/validate-a"] := by
    decide +kernel
  refine ⟨soleManager 0 [], _, rfl, hpaths, (honours_iff_isPlain _ rfl).2 fun e he => ?_⟩
  have hplain : ∀ path ∈ ["/mutate-a", "/validate-a"], Route.IsPlain path := by
    decide +kernel
  exact hplain e.1 (hpaths ▸ List.mem_map_of_mem he)

/-- **Accepted webhooks that are not served**: two captures of which a run dies although its servers
listen, and one capture that answers a request that was posted elsewhere. -/
theorem captures_not_honoured :
    (∃ (m : Manager) (rs : List Registration) (s : Surroundings) (servers : List ServerTask),
      m.webhooks = .empty ∧
      (m.accepted rs).map (·.1) = ["/validate/\x7bkind\x7d", "/validate/\x7bname\x7d"] ∧
      Run.serverTasks (m.registerAll rs).1 s.site = .ok servers ∧
      (Run.start (m.registerAll rs).1 s).phase = .crashed) ∧
    ∃ (m : Manager) (rs : List Registration) (service : Webhook.Service),
      m.webhooks = .empty ∧ (m.accepted rs).map (·.1) = ["/validate/\x7bkind\x7d"] ∧
      Webhook.Service.build? (m.registerAll rs).1.webhooks = some service ∧
      service.respond (Webhook.Service.probe "/validate/release".toList) ≠ (.notFound, none) := by
  refine ⟨?_, ?_⟩
  · let m := soleManager 0 []
    let rs := openWebhooks ["/validate/\x7bkind\x7d", "/validate/\x7bname\x7d"]
    have hpaths : (m.accepted rs).map (·.1) =
        ["/validate/\x7bkind\x7d", "/validate/\x7bname\x7d"] := by
      decide +kernel
    have hbuild : (Webhook.Service.build? (m.registerAll rs).1.webhooks).isNone = true := by
      decide +kernel
    have hlisten : (Run.serverTasks (m.registerAll rs).1 (lateAnswer 0).site).toBool = true := by
      decide +kernel
    obtain ⟨error, herror, -⟩ | ⟨servers, hservers, ⟨-, heq⟩ | ⟨hsome, -⟩⟩ :=
      Run.start_cases (m.registerAll rs).1 (lateAnswer 0)
    · rw [herror] at hlisten
      cases hlisten
    · exact ⟨m, rs, lateAnswer 0, servers, rfl, hpaths, hservers, by rw [heq]; rfl⟩
    · rw [Option.isNone_iff_eq_none.1 hbuild] at hsome
      cases hsome
  · let m := soleManager 0 []
    let rs := openWebhooks ["/validate/\x7bkind\x7d"]
    have hpaths : (m.accepted rs).map (·.1) = ["/validate/\x7bkind\x7d"] := by
      decide +kernel
    have hfound : ((Webhook.Service.build? (m.registerAll rs).1.webhooks).map fun s =>
        (s.routes.lookup "/validate/release".toList).isSome) = some true := by
      decide +kernel
    obtain ⟨service, hservice, hlookup⟩ := Option.map_eq_some_iff.1 hfound
    exact ⟨m, rs, service, rfl, hpaths, hservice, Webhook.Service.respond_probe_ne fun hnone => by
      rw [hnone] at hlookup
      cases hlookup⟩

end Manager

end ControllerManager
