import ControllerManager.Json.Printer
import ControllerManager.Net.Uri

/-!
# Requests and responses

What the servers of the manager read and answer.

## Main definitions

* `Http.Request`, `Http.Response` — a request and its answer.
* `Http.Response.forMethod` — the answer of a resource that serves some methods only.
-/

namespace ControllerManager.Http

/-- The method of a request. -/
inductive Method where
  | get
  | head
  | post
  | other (name : String)
  deriving Repr, DecidableEq

/-- The method of that name. -/
def Method.ofName : String → Method
  | "GET" => .get
  | "HEAD" => .head
  | "POST" => .post
  | name => .other name

/-- A request. The path is the one of the address, as it was written. -/
structure Request where
  method : Method
  path : List Char
  contentType : Option String
  body : List UInt8
  deriving Repr

/-- The body of a response. -/
inductive Body where
  | text (text : String)
  | json (value : Json)
  deriving Repr

/-- An answer. -/
structure Response where
  status : Nat
  contentType : Option String
  /-- The methods that the resource serves, where another one was asked for. -/
  allow : Option String
  body : Body
  deriving Repr

namespace Response

/-- The media type of plain text. -/
def plainText : String := "text/plain; charset=utf-8"

/-- An answer in plain text. -/
def text (status : Nat) (body : String) : Response := ⟨status, some plainText, none, .text body⟩

/-- An answer with a JSON value. -/
def json (value : Json) : Response := ⟨200, some "application/json", none, .json value⟩

/-- The answer where there is no resource. -/
def notFound : Response := ⟨404, none, none, .text ""⟩

/-- The answer to a method that the resource does not serve. -/
def methodNotAllowed (allowed : String) : Response := ⟨405, none, some allowed, .text ""⟩

/-- The answer without its body. -/
def withoutBody (r : Response) : Response := { r with body := .text "" }

/-- The answer of a resource that is read only. -/
def forReading (method : Method) (answer : Response) : Response :=
  match method with
  | .get => answer
  | .head => answer.withoutBody
  | _ => methodNotAllowed "GET,HEAD"

end Response

/-- The path of a written address, unless it is none. -/
def pathOf? (address : String) : Option (List Char) :=
  (Net.Uri.parse address).toOption.map fun uri => uri.target.path

end ControllerManager.Http
