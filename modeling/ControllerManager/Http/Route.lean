/-!
# Routes

Patterns of paths: literal characters, a capture `{name}` of one segment that is not empty, and a
capture `{*name}` of everything that is left. A doubled brace stands for the brace itself.

## Main definitions

* `Http.Route.parse?` — the parts of a written pattern.
* `Http.RouteTable` — patterns that do not conflict, each with its target.
* `Http.RouteTable.lookup` — the target of a path, with what the captures hold.
-/

namespace ControllerManager.Http

/-- A part of a pattern. -/
inductive RoutePart where
  | literal (c : Char)
  /-- A segment that is not empty. -/
  | segment (name : List Char)
  /-- Everything that is left, which is not nothing. -/
  | rest (name : List Char)
  deriving Repr, DecidableEq

/-- A pattern. -/
abbrev Route := List RoutePart

namespace Route

/-- A character of a written pattern, and whether it is a doubled brace. -/
abbrev Mark := Char × Bool

/-- The characters of a written pattern with doubled braces joined. -/
def marks : List Char → List Mark
  | '\x7b' :: '\x7b' :: cs => ('\x7b', true) :: marks cs
  | '\x7d' :: '\x7d' :: cs => ('\x7d', true) :: marks cs
  | c :: cs => (c, false) :: marks cs
  | [] => []

/-- The name of a capture behind its first character, and what follows the closing brace. -/
def captureName : List Mark → Option (List Char × List Mark)
  | [] => none
  | ('\x7d', false) :: ms => some ([], ms)
  | (c, _) :: ms =>
    if c == '*' || c == '/' then none
    else (captureName ms).map fun (name, ms) => (c :: name, ms)

theorem length_captureName {ms rest : List Mark} {name : List Char}
    (h : captureName ms = some (name, rest)) : rest.length < ms.length := by
  induction ms generalizing name rest with
  | nil => simp [captureName] at h
  | cons m ms ih =>
    unfold captureName at h
    split at h
    · simp at *
    · obtain ⟨rfl, rfl⟩ : _ ∧ _ := by simpa using h
      simp_all
    · rename_i heq
      simp only [List.cons.injEq] at heq
      obtain ⟨-, rfl⟩ := heq
      split at h
      · simp at h
      · obtain ⟨⟨n, r⟩, hr, hnr⟩ := Option.map_eq_some_iff.mp h
        simp only [Prod.mk.injEq] at hnr
        obtain ⟨-, rfl⟩ := hnr
        have := ih hr
        simp only [List.length_cons]
        omega

/-- Whether a segment ends at the head of a list. -/
def atSegmentEnd : List Mark → Bool
  | [] => true
  | (c, _) :: _ => c == '/'

/-- The parts of a pattern. A capture has a name, ends its segment, and takes everything that is
left only at the end of the pattern. -/
def ofMarks (ms : List Mark) : Option Route :=
  match ms with
  | [] => some []
  | ('\x7b', false) :: ('\x7d', _) :: _ => none
  | ('\x7b', false) :: (first, _) :: ms =>
    match _h : captureName ms with
    | none => none
    | some (name, rest) =>
      if first == '*' then
        if name.isEmpty || !rest.isEmpty then none else some [.rest name]
      else if atSegmentEnd rest then (ofMarks rest).map (.segment (first :: name) :: ·)
      else none
  | ('\x7b', false) :: [] => none
  | ('\x7d', false) :: _ => none
  | (c, _) :: ms => (ofMarks ms).map (.literal c :: ·)
  termination_by ms.length
  decreasing_by
    · have := length_captureName (by assumption)
      simp only [List.length_cons]
      omega
    · simp

/-- Whether a segment of a written path starts with a character that is reserved. -/
def hasReservedStart (cs : List Char) : Bool :=
  (cs.splitOn '/').any fun segment => segment.head? == some ':' || segment.head? == some '*'

/-- The most captures of one pattern. -/
def maxCaptures : Nat := 25

/-- Whether a part is a capture of one segment. -/
def isSegment : RoutePart → Bool
  | .segment _ => true
  | _ => false

/-- The parts of a written pattern: it starts with a slash, no segment of it starts with a colon
or a star, and its braces are in order. -/
def parse? (path : String) : Option Route :=
  match path.toList with
  | '/' :: cs =>
    if hasReservedStart cs then none
    else
      match ofMarks (marks ('/' :: cs)) with
      | some route => if (route.countP isSegment) ≤ maxCaptures then some route else none
      | none => none
  | _ => none

/-- Whether two patterns cannot stand in one table: they are equal but for the names of segments,
or one takes everything that is left where the other has a capture. -/
def conflict : Route → Route → Bool
  | [], [] => true
  | .literal c :: r, .literal d :: s => c == d && conflict r s
  | .segment _ :: r, .segment _ :: s => conflict r s
  | .rest _ :: _, .segment _ :: _ => true
  | .segment _ :: _, .rest _ :: _ => true
  | .rest _ :: _, .rest _ :: _ => true
  | _, _ => false

end Route

/-- Patterns, each with its target. -/
abbrev RouteTable (α : Type) := List (Route × α)

namespace RouteTable

variable {α : Type}

/-- The table of written patterns, unless one is no pattern or two of them conflict. -/
def build? : List (String × α) → Option (RouteTable α)
  | [] => some []
  | (path, target) :: rest => do
    let route ← Route.parse? path
    let table ← build? rest
    if table.any fun entry => Route.conflict route entry.1 then none
    else some ((route, target) :: table)

/-- What is left of the patterns that start with the character. -/
def afterLiteral (table : RouteTable α) (c : Char) : RouteTable α :=
  table.filterMap fun (route, target) =>
    match route with
    | .literal d :: route => if c = d then some (route, target) else none
    | _ => none

/-- What is left of the patterns that start with the capture of a segment. -/
def afterSegment (table : RouteTable α) : RouteTable α :=
  table.filterMap fun (route, target) =>
    match route with
    | .segment _ :: route => some (route, target)
    | _ => none

/-- The target that takes everything that is left. -/
def restTarget? (table : RouteTable α) : Option α :=
  table.findSome? fun (route, target) =>
    match route with
    | .rest _ :: _ => some target
    | _ => none

/-- The target of a path with what the segments hold, first to last. A literal character is tried
before a capture at every place. -/
def lookup (table : RouteTable α) (path : List Char) : Option (α × List (List Char)) :=
  match path with
  | [] => (table.find? (·.1.isEmpty)).map fun entry => (entry.2, [])
  | c :: cs =>
    match lookup (table.afterLiteral c) cs with
    | some found => some found
    | none =>
      let held := (c :: cs).takeWhile (· != '/')
      match
        if held.isEmpty then none else lookup table.afterSegment (cs.drop (held.length - 1)) with
      | some (target, captures) => some (target, held :: captures)
      | none => table.restTarget?.map fun target => (target, [c :: cs])
  termination_by path.length
  decreasing_by all_goals (simp only [List.length_drop, List.length_cons]; omega)

end RouteTable

end ControllerManager.Http
