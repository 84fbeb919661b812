import ControllerManager.Text.Quoted

/-!
# Environment variables

The variables that the process was started with. The bytes of a variable may be no text.

## Main definitions

* `Environment` — the variables and their bytes.
* `Environment.Reading` — what is found under a key.
-/

namespace ControllerManager

/-- The variables and their bytes. -/
structure Environment where
  entries : List (String × List UInt8)
  deriving Repr

namespace Environment

/-- What is found under a key. -/
inductive Reading where
  | unset
  | text (value : String)
  /-- The bytes are no text. -/
  | unreadable (bytes : List UInt8)
  deriving Repr, DecidableEq

/-- A source of variables. -/
abbrev Source := String → Reading

/-- The wording of a failure to read. -/
def unreadableMessage (bytes : List UInt8) : String :=
  "environment variable was not valid unicode: " ++ Text.quotedBytes bytes

/-- The bytes under a key. -/
def bytes? (env : Environment) (key : String) : Option (List UInt8) :=
  (env.entries.find? (·.1 == key)).map (·.2)

/-- What is found under a key. -/
def read (env : Environment) : Source := fun key =>
  match env.bytes? key with
  | none => .unset
  | some bytes =>
    match Text.Utf8.decode? bytes with
    | some cs => .text (String.ofList cs)
    | none => .unreadable bytes

/-- The text under a key, where there is one. -/
def Reading.text? : Reading → Option String
  | .text value => some value
  | _ => none

end Environment

end ControllerManager
