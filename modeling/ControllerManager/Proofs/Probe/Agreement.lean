import ControllerManager.Probe.Service
import ControllerManager.Proofs.Http.Percent
import ControllerManager.Proofs.Http.Route
import ControllerManager.Proofs.Net.Uri
import ControllerManager.Proofs.Registry.Entries

/-!
# The probe of all checks and the probes of single ones

An endpoint answers in two ways: for all of its checks at once, and for the check whose name stands
behind it in the path. The two agree. Any name that is not empty can stand in a path, percent coded,
and is read there as that name, so every check can be asked for by itself. Neither endpoint looks at
the checks of the other one.

## Main definitions

* `Probe.Service.allPath`, `Probe.Service.onePath` — the paths of the two kinds of probes.
* `Probe.Service.get` — the answer to a request that reads a path.
* `Probe.Service.Agrees` — an endpoint whose two kinds of probes agree.

## Main results

* `Probe.Checks.runAll_cases` — what comes of all checks.
* `Probe.Service.get_allPath`, `Probe.Service.get_onePath` — how paths lead to checks.
* `Probe.Service.respond_congr` — an endpoint answers by its own checks.
* `Probe.Service.probes_agree`.
-/

namespace ControllerManager.Probe

/-! ### Checks -/

theorem Health.isPassing_iff {health : Health} : health.isPassing = true ↔ health = .passing := by
  cases health <;> simp [isPassing]

namespace Checks

variable {checks : Checks} {name : String}

/-- The report of an endpoint that has a failing check: a line of each check, and a last one. -/
def report (ready : Bool) (listing : List (String × Health)) : String :=
  String.join (listing.map fun check => line check.1 check.2 ++ "\n") ++
    if ready then "readyz check failed" else "healthz check failed"

/-- All checks pass, or one of them fails and all are reported. -/
theorem runAll_cases (ready : Bool) (checks : Checks) :
    ((∀ name health, checks.get? name = some health → health = .passing) ∧
      checks.runAll (Service.endpoint ready) = (200, "ok")) ∨
    ((∃ name reason, checks.get? name = some (.failing reason)) ∧
      checks.runAll (Service.endpoint ready) = (500, report ready checks.entries)) := by
  unfold runAll
  split_ifs with hall
  · refine .inl ⟨fun name health hname => ?_, rfl⟩
    have hpassing := List.all_eq_true.1 hall _ (Catalog.get?_eq_some_iff.1 hname)
    exact Health.isPassing_iff.1 hpassing
  · have htext : String.join (checks.lines.map (· ++ "\n")) ++ Service.endpoint ready ++
        " check failed" = report ready checks.entries := by
      rw [report, lines, List.map_map, String.append_assoc]
      cases ready <;> rfl
    refine .inr ⟨?_, by rw [htext]⟩
    rw [Bool.not_eq_true, List.all_eq_false] at hall
    obtain ⟨⟨name, health⟩, hmem, hfails⟩ := hall
    cases health with
    | passing => exact absurd rfl hfails
    | failing reason => exact ⟨name, reason, Catalog.get?_eq_some_iff.2 hmem⟩

/-- All checks pass if each name has a check that does. -/
theorem all_passing_iff :
    (∀ name health, checks.get? name = some health → health = .passing) ↔
      ∀ name ∈ checks.names, checks.get? name = some .passing := by
  constructor
  · intro hall name hname
    obtain ⟨⟨_, health⟩, hmem, rfl⟩ := List.mem_map.1 hname
    have hget := Catalog.get?_eq_some_iff.2 hmem
    rw [hget, hall _ _ hget]
  · intro hall name health hget
    have hname : name ∈ checks.names := List.mem_map_of_mem (Catalog.get?_eq_some_iff.1 hget)
    exact Option.some.inj (hget.symm.trans (hall name hname))

theorem runOne_eq_ok_iff : (checks.runOne name).1 = 200 ↔ checks.get? name = some .passing := by
  unfold runOne
  split <;> simp_all

end Checks

/-- The endpoint of a target. -/
def Target.ready : Target → Bool
  | .all ready => ready
  | .one ready => ready

namespace Service

variable {s s' : Service} {code : Http.PercentCode} {ready : Bool} {name : String}

open Http (RouteTable)

/-! ### Paths -/

/-- The path of the probe of all checks. -/
def allPath (ready : Bool) : List Char := (if ready then "/readyz" else "/healthz").toList

/-- The path of the probe of one check: its name stands percent coded behind the endpoint. -/
def onePath (code : Http.PercentCode) (ready : Bool) (name : String) : List Char :=
  allPath ready ++ '/' :: code.encode name.toList

/-- Behind the name of an endpoint a path ends, or the name of a check follows. -/
theorem afterText_allPath (ready : Bool) :
    routes.afterText (allPath ready) =
      [([], .all ready), ([.literal '/', .segment "name".toList], .one ready)] := by
  cases ready <;> decide

theorem lookup_allPath (ready : Bool) : routes.lookup (allPath ready) = some (.all ready, []) := by
  have hend : (routes.afterText (allPath ready)).lookup [] = some (.all ready, []) := by
    rw [afterText_allPath, RouteTable.lookup]
    rfl
  simpa using RouteTable.lookup_append hend

theorem lookup_onePath (code : Http.PercentCode) (ready : Bool) (h : name ≠ "") :
    routes.lookup (onePath code ready name) = some (.one ready, [code.encode name.toList]) := by
  have hheld : code.encode name.toList ≠ [] :=
    Http.PercentCode.encode_ne_nil (mt String.toList_eq_nil_iff.1 h)
  have hslash : (routes.afterText (allPath ready)).afterLiteral '/' =
      [([.segment "name".toList], .one ready)] := by
    cases ready <;> decide
  refine RouteTable.lookup_append ?_
  rw [RouteTable.lookup, hslash,
    RouteTable.lookup_segment hheld Http.PercentCode.slash_notMem_encode]

/-- A path that begins with an endpoint leads nowhere but to that endpoint. -/
theorem ready_of_lookup {path : List Char} {target : Target} {captures : List (List Char)}
    (hpath : allPath ready <+: path) (h : routes.lookup path = some (target, captures)) :
    target.ready = ready := by
  obtain ⟨route, hmem, hmatch⟩ := RouteTable.exists_matches_of_lookup h
  obtain ⟨rest, rfl⟩ : ∃ rest, route = Http.Route.ofText (allPath target.ready) ++ rest := by
    simp only [routes, List.mem_cons, Prod.mk.injEq, List.not_mem_nil, or_false] at hmem
    rcases hmem with ⟨rfl, rfl⟩ | ⟨rfl, rfl⟩ | ⟨rfl, rfl⟩ | ⟨rfl, rfl⟩
    · exact ⟨[], rfl⟩
    · exact ⟨_, rfl⟩
    · exact ⟨[], rfl⟩
    · exact ⟨_, rfl⟩
  -- Neither name of an endpoint begins with the other one.
  have hdistinct : ∀ a b, allPath a <+: allPath b → a = b := by decide
  rcases List.prefix_or_prefix_of_prefix hmatch.isPrefix hpath with hprefix | hprefix
  · exact hdistinct _ _ hprefix
  · exact (hdistinct _ _ hprefix).symm

/-- A path is read from its text. -/
theorem pathOf?_ofList {path : List Char} (hroot : path.head? = some '/')
    (hchars : ∀ c ∈ path, Net.Uri.isPathChar c = true)
    (hlength : (String.ofList path).utf8ByteSize ≤ Net.Uri.maxLength) :
    Http.pathOf? (String.ofList path) = some path := by
  have htarget : Net.PathQuery.IsTarget ⟨path, none⟩ :=
    ⟨hroot, hchars, fun q hq => by cases hq⟩
  have hprint : Net.PathQuery.print ⟨path, none⟩ = path := List.append_nil path
  have hread := htarget.parsePathQuery_print
  rw [hprint] at hread
  obtain ⟨cs, rfl⟩ := List.head?_eq_some_iff.1 hroot
  unfold Http.pathOf? Net.Uri.parse
  rw [if_neg (Nat.not_lt.2 hlength), String.toList_ofList]
  simp [hread, bind, Except.bind, pure, Except.pure, Except.toOption, Net.Uri.target]

theorem isPathChar_allPath (ready : Bool) : ∀ c ∈ allPath ready, Net.Uri.isPathChar c = true := by
  cases ready <;> exact List.all_eq_true.1 (by decide)

theorem isPathChar_onePath : ∀ c ∈ onePath code ready name, Net.Uri.isPathChar c = true := by
  intro c hc
  rcases List.mem_append.1 hc with hc | hc
  · exact isPathChar_allPath ready c hc
  · rcases List.mem_cons.1 hc with rfl | hc
    · decide
    · exact Http.PercentCode.isPathChar_of_mem_encode c hc

/-! ### Answers -/

/-- The answer to a request that reads a path. -/
def get (s : Service) (path : List Char) : Http.Response := s.respond ⟨.get, path, none, []⟩

/-- Only the path of a request matters. -/
theorem respond_of_get {request : Http.Request} (h : request.method = .get) :
    s.respond request = s.get request.path := by
  unfold get respond
  rw [h]

theorem get_allPath (s : Service) (ready : Bool) :
    s.get (allPath ready) = .text ((s.checks ready).runAll (endpoint ready)).1
      ((s.checks ready).runAll (endpoint ready)).2 := by
  unfold get respond
  rw [lookup_allPath]
  rfl

theorem get_onePath (s : Service) (code : Http.PercentCode) (ready : Bool) (h : name ≠ "") :
    s.get (onePath code ready name) =
      .text ((s.checks ready).runOne name).1 ((s.checks ready).runOne name).2 := by
  unfold get respond
  rw [lookup_onePath code ready h]
  simp only [Http.Response.forReading, answer, List.headD_cons,
    Http.PercentCode.percentDecode?_encode, String.ofList_toList]

theorem answer_congr {target : Target} (h : s'.checks target.ready = s.checks target.ready)
    (captures : List (List Char)) : s'.answer target captures = s.answer target captures := by
  cases target with
  | all ready =>
    have hchecks : s'.checks ready = s.checks ready := h
    simp only [answer, hchecks]
  | one ready =>
    have hchecks : s'.checks ready = s.checks ready := h
    simp only [answer, hchecks]

/-- **An endpoint answers by its own checks**, whatever those of the other one are. -/
theorem respond_congr (h : s'.checks ready = s.checks ready) {request : Http.Request}
    (hpath : allPath ready <+: request.path) : s'.respond request = s.respond request := by
  unfold respond
  cases hfound : routes.lookup request.path with
  | none => rfl
  | some found =>
    obtain ⟨target, captures⟩ := found
    have hready := ready_of_lookup hpath hfound
    simp only [answer_congr (hready ▸ h) captures]

/-! ### Agreement -/

/-- An endpoint whose probe of all checks agrees with the probes of the single ones. -/
structure Agrees (s : Service) (code : Http.PercentCode) (ready : Bool) : Prop where
  ok_iff_passing : s.get (allPath ready) = .text 200 "ok" ↔
    ∀ name health, (s.checks ready).get? name = some health → health = .passing
  ok_iff_single : s.get (allPath ready) = .text 200 "ok" ↔
    ∀ name ∈ (s.checks ready).names, (s.get (onePath code ready name)).status = 200
  /-- Otherwise there is a line of every check, in ascending order of the names. -/
  report : s.get (allPath ready) ≠ .text 200 "ok" →
    ∃ listing : List (String × Health), listing.Pairwise (fun a b => a.1 < b.1) ∧
      (∀ name health, (name, health) ∈ listing ↔ (s.checks ready).get? name = some health) ∧
      s.get (allPath ready) = .text 500 (Checks.report ready listing)
  lines : ∀ name reason, Checks.line name .passing = "[+]" ++ name ++ " ok" ∧
    Checks.line name (.failing reason) = "[-]" ++ name ++ " failed: " ++ reason
  passing : ∀ name, (s.checks ready).get? name = some .passing →
    s.get (onePath code ready name) = .text 200 "ok"
  /-- A check that fails is answered with its line in the report. -/
  failing : ∀ name reason, (s.checks ready).get? name = some (.failing reason) →
    s.get (onePath code ready name) = .text 500 (Checks.line name (.failing reason))
  unknown : ∀ name, name ≠ "" → (s.checks ready).get? name = none →
    s.get (onePath code ready name) = .text 404 ("no check named " ++ Text.quoted name)

theorem get_allPath_eq_ok_iff (s : Service) (ready : Bool) :
    s.get (allPath ready) = .text 200 "ok" ↔
      ∀ name health, (s.checks ready).get? name = some health → health = .passing := by
  rw [get_allPath]
  rcases Checks.runAll_cases ready (s.checks ready) with
    ⟨hall, hrun⟩ | ⟨⟨name, reason, hget⟩, hrun⟩
  · exact iff_of_true (by rw [hrun]) hall
  · refine iff_of_false ?_ fun hall => by cases hall _ _ hget
    rw [hrun]
    simp [Http.Response.text]

theorem status_onePath_eq_ok_iff (s : Service) (code : Http.PercentCode) (ready : Bool)
    (h : name ≠ "") :
    (s.get (onePath code ready name)).status = 200 ↔
      (s.checks ready).get? name = some .passing := by
  rw [s.get_onePath code ready h]
  exact Checks.runOne_eq_ok_iff

theorem agrees (code : Http.PercentCode) (hnames : "" ∉ (s.checks ready).names) :
    Agrees s code ready := by
  have hne {name : String} {health : Health} (h : (s.checks ready).get? name = some health) :
      name ≠ "" := by
    rintro rfl
    exact hnames (List.mem_map_of_mem (Catalog.get?_eq_some_iff.1 h))
  have hok := s.get_allPath_eq_ok_iff ready
  exact {
    ok_iff_passing := hok
    ok_iff_single := by
      rw [hok, Checks.all_passing_iff]
      refine forall₂_congr fun name hname => ?_
      rw [s.status_onePath_eq_ok_iff code ready (ne_of_mem_of_not_mem hname hnames)]
    report := fun hfails => by
      rcases Checks.runAll_cases ready (s.checks ready) with ⟨hall, -⟩ | ⟨-, hrun⟩
      · exact absurd (hok.2 hall) hfails
      · exact ⟨(s.checks ready).entries, (s.checks ready).sorted,
          fun name health => Catalog.get?_eq_some_iff.symm, by rw [get_allPath, hrun]⟩
    lines := fun name reason => ⟨rfl, rfl⟩
    passing := fun name hget => by
      rw [s.get_onePath code ready (hne hget), Checks.runOne, hget]
    failing := fun name reason hget => by
      rw [s.get_onePath code ready (hne hget), Checks.runOne, hget]
    unknown := fun name hname hget => by
      rw [s.get_onePath code ready hname, Checks.runOne, hget] }

/-- **The probe of all checks agrees with the single ones.** If no check of an endpoint has the
empty name, the endpoint answers that all is well exactly if every check passes, and exactly if the
probe of every check by itself, with its name percent coded in the path, says so. Otherwise it
reports a line of every check, which for one that fails is the answer of its own probe. A name
without a check is not found. The checks of the other endpoint make no difference, and neither does
anything but the path of a request. An address that is not too long is read as the path that it was
written for. -/
theorem probes_agree (s : Service) (code : Http.PercentCode) (ready : Bool)
    (hnames : "" ∉ (s.checks ready).names) :
    Agrees s code ready ∧
    (∀ (s' : Service) (request : Http.Request), s'.checks ready = s.checks ready →
      allPath ready <+: request.path → s'.respond request = s.respond request) ∧
    (∀ request : Http.Request, request.method = .get → s.respond request = s.get request.path) ∧
    Http.pathOf? (String.ofList (allPath ready)) = some (allPath ready) ∧
    ∀ name, (String.ofList (onePath code ready name)).utf8ByteSize ≤ Net.Uri.maxLength →
      Http.pathOf? (String.ofList (onePath code ready name)) = some (onePath code ready name) := by
  refine ⟨agrees code hnames, fun s' request h hpath => respond_congr h hpath,
    fun request => respond_of_get, ?_,
    fun name => pathOf?_ofList (by cases ready <;> rfl) isPathChar_onePath⟩
  exact pathOf?_ofList (by cases ready <;> rfl) (isPathChar_allPath ready)
    (by cases ready <;> decide)

/-- Checks whose names cannot stand in a path as they are. -/
def escaped : Service := ⟨⟨[("a/b", .passing), ("ü%", .failing "cold")], by decide⟩, .empty⟩

theorem probes_agree_escaped :
    "" ∉ (escaped.checks false).names ∧
      escaped.get "/healthz/a%2Fb".toList = .text 200 "ok" ∧
      escaped.get "/healthz/%C3%BC%25".toList = .text 500 "[-]ü% failed: cold" ∧
      escaped.get "/healthz".toList ≠ .text 200 "ok" := by
  have hnames : "" ∉ (escaped.checks false).names := by decide
  have hagrees := (probes_agree escaped .unreserved false hnames).1
  have hslash : onePath .unreserved false "a/b" = "/healthz/a%2Fb".toList := by decide
  have hpercent : onePath .unreserved false "ü%" = "/healthz/%C3%BC%25".toList := by decide
  refine ⟨hnames, hslash ▸ hagrees.passing "a/b" rfl, hpercent ▸ hagrees.failing "ü%" "cold" rfl,
    fun hok => ?_⟩
  cases hagrees.ok_iff_passing.1 hok "ü%" _ rfl

end Service

end ControllerManager.Probe
