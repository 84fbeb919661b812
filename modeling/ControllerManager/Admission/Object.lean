import ControllerManager.Json.Shape

/-!
# Objects of any kind

An object of the cluster whose kind is not known beforehand: its metadata have fixed fields, and
everything else is kept as it is.

## Main definitions

* `Admission.Object` — an object.
* `Admission.Object.shape` — how it is written.
* `Admission.Object.ofJson` — the object that a value holds.
-/

namespace ControllerManager.Admission

/-- A text that may be missing. -/
def optionalText : Json.Shape := .optional .text

/-- A member that may be missing. -/
def field (name : String) (shape : Json.Shape) : String × Bool × Json.Shape := (name, true, shape)

/-- A member that has to be there. -/
def required (name : String) (shape : Json.Shape) : String × Bool × Json.Shape :=
  (name, false, shape)

/-- A whole number of 64 binary digits that may be missing. -/
def optionalLong : Json.Shape := .optional (.integer (-0x8000000000000000) 0x7fffffffffffffff)

/-- The shape of a reference to an owner. -/
def ownerShape : Json.Shape :=
  .record .keyed
    [field "apiVersion" optionalText, field "blockOwnerDeletion" (.optional .truth),
     field "controller" (.optional .truth), field "kind" optionalText, field "name" optionalText,
     field "uid" optionalText] .ignored

/-- The shape of an entry that says which fields somebody manages. -/
def managedFieldsShape : Json.Shape :=
  .record .keyed
    [field "apiVersion" optionalText, field "fieldsType" optionalText,
     field "fieldsV1" (.optional .any), field "manager" optionalText,
     field "operation" optionalText, field "subresource" optionalText,
     field "time" (.optional .moment)] .ignored

/-- The shape of the metadata of an object. -/
def metadataShape : Json.Shape :=
  .record .keyed
    [field "annotations" (.optional (.dictionary .text)),
     field "creationTimestamp" (.optional .moment),
     field "deletionGracePeriodSeconds" optionalLong,
     field "deletionTimestamp" (.optional .moment),
     field "finalizers" (.optional (.list .text)), field "generateName" optionalText,
     field "generation" optionalLong, field "labels" (.optional (.dictionary .text)),
     field "managedFields" (.optional (.list managedFieldsShape)), field "name" optionalText,
     field "namespace" optionalText, field "ownerReferences" (.optional (.list ownerShape)),
     field "resourceVersion" optionalText, field "selfLink" optionalText,
     field "uid" optionalText] .ignored

/-- An object of any kind. -/
structure Object where
  /-- The version and the kind, unless one of them is missing or no text. -/
  types : Option (String × String)
  name : Option String
  /-- Everything beside the metadata and the members that were read for the types. -/
  data : List (String × Json)
  deriving Repr

namespace Object

/-- The shape of an object. -/
def shape : Json.Shape := .record .collecting [field "metadata" metadataShape] .any

/-- The version and the kind at the head of the members of an object, and the members that are
left. Members are taken in order until both are known. One that is no text or stands twice ends
the search. -/
def takeTypes (version kind : Option String) :
    List (String × Json) → Option (String × String) × List (String × Json)
  | [] => (version.bind fun v => kind.map fun k => (v, k), [])
  | (name, value) :: rest =>
    if name = "apiVersion" then
      match version, value with
      | none, .str v => takeTypes (some v) kind rest
      | _, _ => (none, rest)
    else if name = "kind" then
      match kind, value with
      | none, .str k => takeTypes version (some k) rest
      | _, _ => (none, rest)
    else
      let (types, left) := takeTypes version kind rest
      (types, (name, value) :: left)

/-- The object that a value holds. -/
def ofJson (j : Json) : Object :=
  match j with
  | .obj members =>
    let (types, data) := takeTypes none none (members.filter (·.1 != "metadata"))
    ⟨types, ((j.get? "metadata").bind (·.get? "name")).bind Json.str?, data⟩
  | _ => ⟨none, none, []⟩

end Object

end ControllerManager.Admission
