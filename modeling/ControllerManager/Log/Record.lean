import ControllerManager.Json.Printer
import ControllerManager.Log.Level
import ControllerManager.Text.Quoted

/-!
# Log records

A record has a level, a target that says which part of the program it comes from, a message, and
named values.

## Main definitions

* `Log.Value` — a named value.
* `Log.Record` — a record.
* `Log.Record.json`, `Log.Record.line` — its two written forms.
-/

namespace ControllerManager.Log

/-- The value of a field. -/
inductive Value where
  /-- A text that stands as it is. -/
  | plain (text : String)
  /-- A text that stands between quotes where a reader sees it. -/
  | quoted (text : String)
  | count (n : Nat)
  | truth (b : Bool)
  deriving Repr, DecidableEq

namespace Value

/-- The value as JSON. -/
def json : Value → Json
  | plain text | quoted text => .str text
  | count n => .int n
  | truth b => .bool b

/-- The value for a reader. -/
def text : Value → String
  | plain text => text
  | quoted text => Text.quoted text
  | count n => toString n
  | truth b => if b then "true" else "false"

end Value

/-- A log record. -/
structure Record where
  level : Level
  target : String
  message : String
  fields : List (String × Value)
  deriving Repr, DecidableEq

namespace Record

/-- The message and the fields as JSON. -/
def members (r : Record) : List (String × Json) :=
  ("message", .str r.message) :: r.fields.map fun (name, value) => (name, value.json)

/-- The record as JSON, with the time at which it was written. -/
def json (r : Record) (time : String) : Json :=
  .obj [("timestamp", .str time), ("level", .str r.level.name), ("fields", .obj r.members),
    ("target", .str r.target)]

/-- The record as a line for a reader, with the time at which it was written. -/
def line (r : Record) (time : String) : String :=
  let level := String.ofList (List.replicate (5 - r.level.name.length) ' ') ++ r.level.name
  let fields := r.fields.map fun (name, value) => " " ++ name ++ "=" ++ value.text
  time ++ " " ++ level ++ " " ++ r.target ++ ": " ++ r.message ++ String.join fields

end Record

end ControllerManager.Log
