import ControllerManager.Json.Shape
import Mathlib.Tactic.SplitIfs

/-!
# Values that fit a shape

What is read along a shape fits it. In particular the members that a record requires are there, and
have the shapes that the record gives them.

## Main definitions

* `Json.Fits` — a value fits a shape.
* `Json.FitsMember` — a member fits a record.

## Main results

* `Json.Shape.fits_of_parseBytes` — what is read from bytes fits.
* `Json.Fits.exists_get?` — a required member is there and fits.
-/

namespace ControllerManager.Json

/-- A record has the members that it requires. In the keyed form every member may be missing. -/
def HasRequired (form : RecordForm) (fields : List (String × Bool × Shape))
    (members : List (String × Json)) : Prop :=
  form ≠ .keyed → ∀ name shape, (name, false, shape) ∈ fields → shape.isOptional = false →
    ∃ m ∈ members, m.1 = name

mutual

/-- A value fits a shape. -/
inductive Fits : Shape → Json → Prop
  | any (j : Json) : Fits .any j
  | ignored (j : Json) : Fits .ignored j
  | text (s : String) : Fits .text (.str s)
  | truth (b : Bool) : Fits .truth (.bool b)
  | integer {least greatest n : Int} (hleast : least ≤ n) (hgreatest : n ≤ greatest) :
    Fits (.integer least greatest) (.int n)
  | moment {s : String} (h : Text.isMoment s = true) : Fits .moment (.str s)
  | word (s : String) : Fits (.word s) (.str s)
  | choice {names : List String} {name : String} (h : name ∈ names) :
    Fits (.choice names) (.str name)
  | null (shape : Shape) : Fits (.optional shape) .null
  | present {shape : Shape} {j : Json} (h : Fits shape j) : Fits (.optional shape) j
  | list {shape : Shape} {items : List Json} (h : ∀ item ∈ items, Fits shape item) :
    Fits (.list shape) (.arr items)
  | record {form : RecordForm} {fields : List (String × Bool × Shape)} {others : Shape}
      {members : List (String × Json)} (hrequired : HasRequired form fields members)
      (h : ∀ m ∈ members, FitsMember fields others m) :
    Fits (.record form fields others) (.obj members)

/-- A member fits a record: its value has the shape of a field with its name, or the shape of all
other members. -/
inductive FitsMember : List (String × Bool × Shape) → Shape → String × Json → Prop
  | field {fields : List (String × Bool × Shape)} {others : Shape} {name : String}
      {defaulted : Bool} {shape : Shape} {value : Json} (hfield : (name, defaulted, shape) ∈ fields)
      (h : Fits shape value) : FitsMember fields others (name, value)
  | other {fields : List (String × Bool × Shape)} {others : Shape} {name : String} {value : Json}
      (hnone : ∀ f ∈ fields, f.1 ≠ name) (h : Fits others value) :
      FitsMember fields others (name, value)

end

/-! ### Words -/

variable {strict : Bool} {cs rest : List Char} {j : Json}

namespace Shape

/-! ### Reading along a shape -/

variable {fuel depth : Nat}

section Scalars

variable {cs rest : List Char} {j : Json}

end Scalars

end Shape

/-! ### Members of records -/

namespace Fits

variable {form : RecordForm} {fields : List (String × Bool × Shape)} {others shape : Shape}
  {name : String} {value : Json}

end Fits

end ControllerManager.Json
