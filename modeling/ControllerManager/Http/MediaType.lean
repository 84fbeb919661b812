/-!
# Media types

The header that names the format of a body: a type, a subtype with an optional suffix behind the
last plus sign, and parameters. Letters count in either case.

## Main definitions

* `Http.MediaType.parse?` — the type, subtype and suffix of a header.
* `Http.MediaType.isJson` — the formats that a JSON body may have.
-/

namespace ControllerManager.Http

/-- A type with its subtype and suffix, in lower case. -/
structure MediaType where
  type : List Char
  subtype : List Char
  suffix : Option (List Char)
  deriving Repr, DecidableEq

namespace MediaType

/-- The characters of names. -/
def isTokenChar (c : Char) : Bool := c.isAlphanum || "!#$%&'*+-.^_`|~".toList.contains c

/-- The characters between quotes. -/
def isQuotedChar (c : Char) : Bool := 0x1f < c.toNat && c.toNat != 0x7f

/-- What follows a name at the head of a list, and the name. -/
def token (cs : List Char) : List Char × List Char :=
  (cs.takeWhile isTokenChar, cs.dropWhile isTokenChar)

/-- Whether a list is a sequence of parameters with semicolons between them. -/
def areParameters (fuel : Nat) (cs : List Char) : Bool :=
  match fuel with
  | 0 => false
  | fuel + 1 =>
    match cs with
    | [] => true
    | ' ' :: rest => areParameters fuel rest
    | _ =>
      match token cs with
      | ([], _) => false
      | (_, '=' :: '"' :: first :: rest) =>
        match isQuotedChar first, rest.dropWhile fun c => isQuotedChar c && c != '"' with
        | true, '"' :: rest =>
          match rest.dropWhile (· == ' ') with
          | [] => true
          | ';' :: rest => areParameters fuel rest
          | _ => false
        | _, _ => false
      | (_, '=' :: rest) =>
        match token rest with
        | (_, []) => true
        | (_ :: _, ';' :: rest) => areParameters fuel rest
        | _ => false
      | _ => false

/-- The subtype and the suffix of a name. -/
def splitSuffix (name : List Char) : List Char × Option (List Char) :=
  let suffix := (name.reverse.takeWhile (· != '+')).reverse
  let before := name.take (name.length - suffix.length - 1)
  if suffix.length < name.length && !before.isEmpty then (before, some suffix) else (name, none)

/-- The media type that a header names. -/
def parse? (header : String) : Option MediaType :=
  let (type, rest) := token header.toList
  match type, rest with
  | _ :: _, '/' :: rest =>
    let (name, rest) := token rest
    let (subtype, suffix) := splitSuffix name
    let result : MediaType :=
      ⟨type.map Char.toLower, subtype.map Char.toLower, suffix.map (·.map Char.toLower)⟩
    match name, rest with
    | _, [] => some result
    | _ :: _, ';' :: rest =>
      if areParameters (rest.length + 1) rest then some result else none
    | _, _ => none
  | _, _ => none

/-- The formats that a JSON body may have: `application/json`, and every type of applications
with the suffix `json`. -/
def isJson (m : MediaType) : Bool :=
  m.type == "application".toList &&
    (m.subtype == "json".toList || m.suffix == some "json".toList)

end MediaType

end ControllerManager.Http
