import ControllerManager.Log.Level
import ControllerManager.Text.Blank

/-!
# Log filters

Which log records are kept. A filter is a list of directives between commas, each a threshold, the
beginning of a target, or both with a sign of equality between them. Of the directives whose
target a record has, the one with the longest target decides, and of two with the same target the
last one.

## Main definitions

* `Log.Directive` — a threshold for targets.
* `Log.Filter` — the directives that count.
* `Log.Filter.parse` — the filter that a text denotes.
* `Log.Filter.keeps` — whether records of a level and a target are kept.
-/

namespace ControllerManager.Log

/-- A threshold for the targets that begin with a text. -/
structure Directive where
  target : String
  threshold : Threshold
  deriving Repr, DecidableEq

/-- The directives that count, in order. -/
structure Filter where
  directives : List Directive
  deriving Repr, DecidableEq

namespace Directive

/-- Whether a directive is about a target. -/
def covers (d : Directive) (target : String) : Bool := d.target.toList.isPrefixOf target.toList

/-- What comes of reading a directive. -/
inductive Reading where
  | directive (d : Directive)
  /-- It is about records inside of spans, which are none. -/
  | idle
  | refused (reason : String)
  deriving Repr, DecidableEq

/-- Whether a directive can start with a character. -/
def canStart (c : Char) : Bool := c.isAlphanum || c == '-' || c == ':' || c == '_' || c == '['

/-- Why a directive is refused whose threshold is none. -/
def unknownLevel : String :=
  "error parsing level filter: expected one of \"off\", \"error\", \"warn\", \"info\", \"debug\"" ++
    ", \"trace\", or a number 0-5"

/-- The directive of a target and the text behind the sign of equality. -/
def ofParts (target level : String) : Reading :=
  if level.isEmpty then .directive ⟨target, .upTo .trace⟩
  else
    match Threshold.parse? level with
    | some threshold => .directive ⟨target, threshold⟩
    | none => .refused unknownLevel

/-- The directive that a text denotes. Without a threshold, all records of a target are meant. -/
def read (s : String) : Reading :=
  let cs := (Text.trim s).toList
  if cs.contains '[' then .idle
  else if !cs.head?.all canStart then .refused "invalid filter directive"
  else
    let target := String.ofList (cs.takeWhile (· != '='))
    match cs.dropWhile (· != '=') with
    | _ :: level => ofParts target (String.ofList level)
    | [] =>
      match Threshold.parse? target with
      | some threshold => .directive ⟨"", threshold⟩
      | none => .directive ⟨target, .upTo .trace⟩

end Directive

namespace Filter

/-- The filter where no directive is given. -/
def standard : Filter := ⟨[⟨"", .upTo .info⟩]⟩

/-- The parts of a text between commas that are not empty. -/
def parts (s : String) : List String := (s.splitOn ",").filter (!·.isEmpty)

/-- The filter that a text denotes. Refused directives do not count. -/
def parse (s : String) : Filter :=
  let readings := (parts s).map Directive.read
  let directives := readings.filterMap fun
    | .directive d => some d
    | _ => none
  if readings.any (fun r => match r with | .refused _ => false | _ => true) then ⟨directives⟩
  else standard

/-- What is said about the refused directives in a text. -/
def complaints (s : String) : List String :=
  (parts s).filterMap fun part =>
    match Directive.read part with
    | .refused reason => some ("ignoring \x60" ++ part ++ "\x60: " ++ reason)
    | _ => none

/-- The one of two directives that decides, of which the first stands before the second. -/
def stronger (a b : Directive) : Directive :=
  if a.target.utf8ByteSize ≤ b.target.utf8ByteSize then b else a

/-- The directive that decides about a target. -/
def deciding? (f : Filter) (target : String) : Option Directive :=
  match f.directives.filter (·.covers target) with
  | [] => none
  | d :: rest => some (rest.foldl stronger d)

/-- Whether records of a level and a target are kept. -/
def keeps (f : Filter) (level : Level) (target : String) : Bool :=
  (f.deciding? target).any fun d => d.threshold.admits level

end Filter

end ControllerManager.Log
