import ControllerManager.Decimal.Shortest

/-!
# JSON values

Values of the data format of the cluster API. Whole numbers of up to 64 binary digits are kept
exactly, every other number as the shortest decimal of a binary fraction.

## Main definitions

* `Json` — a value.
* `Json.Number` — a number.
* `Json.get?` — a member of an object.
-/

namespace ControllerManager

/-- A number: a whole number of up to 64 binary digits, or a decimal with its sign. -/
inductive Json.Number where
  | whole (value : Int)
  | decimal (negative : Bool) (magnitude : Decimal.Scaled)
  deriving Repr, DecidableEq

/-- A value. The members of an object stand in the order in which they were written. -/
inductive Json where
  | null
  | bool (value : Bool)
  | num (value : Json.Number)
  | str (value : String)
  | arr (items : List Json)
  | obj (members : List (String × Json))
  deriving Repr

namespace Json

instance : Inhabited Json := ⟨null⟩

/-- The last member of that name. -/
def get? (j : Json) (key : String) : Option Json :=
  match j with
  | .obj members => (members.reverse.find? (·.1 == key)).map (·.2)
  | _ => none

/-- The text of a string. -/
def str? : Json → Option String
  | .str s => some s
  | _ => none

/-- The items of an array. -/
def items? : Json → Option (List Json)
  | .arr items => some items
  | _ => none

/-- The value of a whole number. -/
def int? : Json → Option Int
  | .num (.whole n) => some n
  | _ => none

/-- The value of a truth value. -/
def bool? : Json → Option Bool
  | .bool b => some b
  | _ => none

/-- A whole number. -/
def int (n : Int) : Json := .num (.whole n)

/-- A string or null. -/
def optStr (s : Option String) : Json := (s.map Json.str).getD .null

/-- A member in front of the members with greater names, in place of one with the same name. -/
def insertMember (key : String) (value : Json) : List (String × Json) → List (String × Json)
  | [] => [(key, value)]
  | (k, v) :: rest =>
    if key < k then (key, value) :: (k, v) :: rest
    else if key = k then (key, value) :: rest
    else (k, v) :: insertMember key value rest

/-- Members in ascending order of their names, the last one of each name. -/
def sortMembers (members : List (String × Json)) : List (String × Json) :=
  members.foldl (fun acc m => insertMember m.1 m.2 acc) []

mutual

/-- The value with the members of all objects in ascending order of their names. -/
def sorted : Json → Json
  | .arr items => .arr (sortedItems items)
  | .obj members => .obj (sortMembers (sortedMembers members))
  | j => j

/-- The items of an array, each sorted. -/
def sortedItems : List Json → List Json
  | [] => []
  | j :: rest => j.sorted :: sortedItems rest

/-- The members of an object, each with its value sorted. -/
def sortedMembers : List (String × Json) → List (String × Json)
  | [] => []
  | (k, v) :: rest => (k, v.sorted) :: sortedMembers rest

end

end Json

end ControllerManager
