import ControllerManager.Text.Lower

/-!
# Log formats

The two forms in which log records are written.

## Main definitions

* `Log.Format` — text or JSON.
* `Log.Format.parse` — the format of that name.
-/

namespace ControllerManager.Log

/-- The form of log records. -/
inductive Format where
  | text
  | json
  deriving Repr, DecidableEq

namespace Format

/-- The format where none is chosen. -/
def standard : Format := .text

/-- The name of a format. -/
def name : Format → String
  | .text => "text"
  | .json => "json"

/-- All formats, in the order in which they are listed. -/
def all : List Format := [.text, .json]

/-- The wording of the failure where no format has the name. -/
def invalidMessage (name : String) : String := "invalid variant: " ++ name

/-- The format of that name. With `ignoreCase` the letters of ASCII count in either case. -/
def parse (ignoreCase : Bool) (text : String) : Except String Format :=
  match all.find? fun f =>
    if ignoreCase then Text.lowerAscii f.name == Text.lowerAscii text else f.name == text with
  | some f => .ok f
  | none => .error (invalidMessage text)

end Format

end ControllerManager.Log
