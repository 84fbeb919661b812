import ControllerManager.Admission.Request

/-!
# Admission responses

The verdict on a request, and the review that carries it back.

## Main definitions

* `Admission.Response` — a verdict.
* `Admission.Handler` — how requests are judged.
* `Admission.Response.review` — the review that carries a verdict.
-/

namespace ControllerManager.Admission

/-- A verdict. -/
structure Response where
  apiVersion : String
  reviewKind : String
  uid : String
  allowed : Bool
  /-- Whether the request could not be judged. -/
  isFailure : Bool
  message : String
  reason : String
  deriving Repr, DecidableEq

/-- How requests are judged. -/
abbrev Handler := Request → Response

namespace Response

/-- The verdict that allows a request. -/
def allow (r : Request) : Response := ⟨r.apiVersion, r.reviewKind, r.uid, true, false, "", ""⟩

/-- The verdict that refuses a request, with a message. -/
def deny (r : Request) (message : String) : Response :=
  { allow r with allowed := false, message := message }

/-- The verdict on a review that holds no request. -/
def invalid (message : String) : Response :=
  ⟨"admission.k8s.io/v1beta1", "AdmissionReview", "", false, true, message, "InvalidRequest"⟩

/-- A text as a member, unless it is empty. -/
def textMember (key value : String) : List (String × Json) :=
  if value.isEmpty then [] else [(key, .str value)]

/-- The status of a verdict as an object. -/
def status (r : Response) : Json :=
  .obj <|
    (if r.isFailure then [("status", .str "Failure")] else []) ++ textMember "message" r.message ++
      textMember "reason" r.reason

/-- The review that carries a verdict. -/
def review (r : Response) : Json :=
  .obj
    [("apiVersion", .str r.apiVersion), ("kind", .str r.reviewKind),
     ("response",
       .obj [("uid", .str r.uid), ("allowed", .bool r.allowed), ("status", r.status)])]

end Response

/-- The handler that allows every request. -/
def allowAll : Handler := Response.allow

/-- The description of a review without a request. -/
def missingRequest : String := "failed to convert AdmissionReview into AdmissionRequest"

end ControllerManager.Admission
