import ControllerManager.Admission.Object
import ControllerManager.Scheme.Basic

/-!
# Admission requests

The question of the cluster whether a change of an object is allowed, as it stands in a review.

## Main definitions

* `Admission.Request` — a request.
* `Admission.reviewShape` — how a review is written.
* `Admission.Request.ofReview?` — the request that a review holds.
-/

namespace ControllerManager.Admission

/-- What is done to an object. -/
inductive Operation where
  | create
  | update
  | delete
  | connect
  deriving Repr, DecidableEq

namespace Operation

/-- All operations. -/
def all : List Operation := [.create, .update, .delete, .connect]

/-- The word for an operation in a request. -/
def code : Operation → String
  | .create => "CREATE"
  | .update => "UPDATE"
  | .delete => "DELETE"
  | .connect => "CONNECT"

/-- The name of an operation. -/
def name : Operation → String
  | .create => "Create"
  | .update => "Update"
  | .delete => "Delete"
  | .connect => "Connect"

/-- The operation of that word. -/
def ofCode? (code : String) : Option Operation := all.find? (·.code == code)

end Operation

/-- A request. -/
structure Request where
  /-- The version of the review that holds the request. -/
  apiVersion : String
  /-- The kind of the review that holds the request. -/
  reviewKind : String
  uid : String
  kind : GroupVersionKind
  resource : String
  subresource : Option String
  name : String
  namespaceName : Option String
  operation : Operation
  /-- Who asks. -/
  username : Option String
  object : Option Object
  oldObject : Option Object
  dryRun : Bool
  deriving Repr

/-- The shape of the name of a kind. -/
def kindShape : Json.Shape :=
  .record .positional
    [required "group" .text, required "version" .text, required "kind" .text] .ignored

/-- The shape of the name of a resource. -/
def resourceShape : Json.Shape :=
  .record .positional
    [required "group" .text, required "version" .text, required "resource" .text,
     field "api_version" .text] .ignored

/-- The shape of the one who asks. -/
def userShape : Json.Shape :=
  .record .keyed
    [field "extra" (.optional (.dictionary (.list .text))),
     field "groups" (.optional (.list .text)), field "uid" optionalText,
     field "username" optionalText] .ignored

/-- The shape of a request. -/
def requestShape : Json.Shape :=
  .record .positional
    [required "uid" .text, required "kind" kindShape, required "resource" resourceShape,
     field "subResource" optionalText, field "requestKind" (.optional kindShape),
     field "requestResource" (.optional resourceShape), field "requestSubResource" optionalText,
     field "name" .text, field "namespace" optionalText,
     required "operation" (.choice (Operation.all.map Operation.code)),
     required "userInfo" userShape, required "object" (.optional Object.shape),
     field "oldObject" (.optional Object.shape), field "dryRun" .truth,
     field "options" (.optional .any)] .ignored

/-- The shape of the details of a status. -/
def detailsShape : Json.Shape :=
  let cause := Json.Shape.record .positional
    [field "reason" .text, field "message" .text, field "field" .text] .ignored
  .record .positional
    [field "name" .text, field "group" .text, field "kind" .text, field "uid" .text,
     field "causes" (.list cause), field "retryAfterSeconds" (.integer 0 0xffffffff)] .ignored

/-- The shape of a status. -/
def statusShape : Json.Shape :=
  .record .positional
    [field "status" (.optional (.choice ["Success", "Failure"])),
     field "code" (.integer 0 65535), field "message" .text, field "reason" .text,
     field "details" (.optional detailsShape)] .ignored

/-- The shape of a response. -/
def responseShape : Json.Shape :=
  .record .positional
    [required "uid" .text, required "allowed" .truth, required "status" statusShape,
     required "patch" (.optional (.list (.integer 0 255))),
     required "patchType" (.optional (.choice ["JSONPatch"])),
     field "auditAnnotations" (.dictionary .text),
     required "warnings" (.optional (.list .text))] .ignored

/-- The shape of a review: its types, and a request or a response. -/
def reviewShape : Json.Shape :=
  .record .typed
    [required "request" (.optional requestShape), required "response" (.optional responseShape)]
    .any

namespace Request

/-- The text under a key, or the empty text. -/
def textAt (j : Json) (key : String) : String := ((j.get? key).bind Json.str?).getD ""

/-- The object under a key. -/
def objectAt (j : Json) (key : String) : Option Object :=
  match j.get? key with
  | none | some .null => none
  | some object => some (.ofJson object)

/-- The request in a review of the given version and kind. -/
def ofJson (apiVersion reviewKind : String) (j : Json) : Request :=
  let kind := (j.get? "kind").getD .null
  { apiVersion := apiVersion
    reviewKind := reviewKind
    uid := textAt j "uid"
    kind := ⟨textAt kind "group", textAt kind "version", textAt kind "kind"⟩
    resource := ((j.get? "resource").map (textAt · "resource")).getD ""
    subresource := (j.get? "subResource").bind Json.str?
    name := textAt j "name"
    namespaceName := (j.get? "namespace").bind Json.str?
    operation := (Operation.ofCode? (textAt j "operation")).getD .create
    username := ((j.get? "userInfo").bind (·.get? "username")).bind Json.str?
    object := objectAt j "object"
    oldObject := objectAt j "oldObject"
    dryRun := ((j.get? "dryRun").bind Json.bool?).getD false }

/-- The request that a review holds. -/
def ofReview? (review : Json) : Option Request :=
  match review.get? "request" with
  | none | some .null => none
  | some request => some (ofJson (textAt review "apiVersion") (textAt review "kind") request)

end Request

end ControllerManager.Admission
