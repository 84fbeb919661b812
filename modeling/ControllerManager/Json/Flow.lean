import ControllerManager.Json.Scan

/-!
# A free notation of JSON values

Containers in brackets as usual, but strings may stand without quotes or between single ones, and
a member may lack a value. Outside of quotes `null`, `~` and nothing at all are null.

## Main definitions

* `Json.Flow.parse?` — the value of a whole text.
-/

namespace ControllerManager.Json.Flow

/-- Characters that end a scalar without quotes. -/
def isIndicator (c : Char) : Bool := [',', '[', ']', '\x7b', '\x7d'].contains c

/-- A scalar without quotes at the head of a list, and what follows it. A colon ends it only in
front of a blank, an indicator or the end. -/
def plain : List Char → List Char × List Char
  | [] => ([], [])
  | c :: cs =>
    if isIndicator c || c == '\n' then ([], c :: cs)
    else if c == ':' && cs.head?.all fun d => isSpace d || isIndicator d then ([], c :: cs)
    else
      let (scalar, rest) := plain cs
      (c :: scalar, rest)

/-- A list without blanks at its end. -/
def trimEnd (cs : List Char) : List Char := (cs.reverse.dropWhile isSpace).reverse

/-- The value of a scalar without quotes. -/
def plainValue (cs : List Char) : Json :=
  match String.ofList (trimEnd cs) with
  | "" | "~" | "null" => .null
  | "true" => .bool true
  | "false" => .bool false
  | s => .str s

/-- The rest of a string behind its single quote. Two of these quotes stand for one. -/
def singleQuoted? : List Char → Option (List Char × List Char)
  | [] => none
  | '\'' :: '\'' :: cs => (singleQuoted? cs).map fun (s, rest) => ('\'' :: s, rest)
  | '\'' :: cs => some ([], cs)
  | c :: cs => (singleQuoted? cs).map fun (s, rest) => (c :: s, rest)

/-- A scalar at the head of a list, and what follows it. -/
def scalar? (cs : List Char) : Option (Json × List Char) :=
  match cs with
  | '"' :: rest => (scanString true rest).toOption.map fun (s, rest) => (.str s, rest)
  | '\'' :: rest => (singleQuoted? rest).map fun (s, rest) => (.str (String.ofList s), rest)
  | _ =>
    let (s, rest) := plain cs
    some (plainValue s, rest)

/-- The name of a member. -/
def keyOf : Json → String
  | .str s => s
  | .bool true => "true"
  | .bool false => "false"
  | _ => ""

mutual

/-- A value at the head of a list, and what follows it. -/
def read? : Nat → List Char → Option (Json × List Char)
  | 0, _ => none
  | fuel + 1, cs =>
    match skipSpace cs with
    | '\x7b' :: rest => (readMembers? fuel rest).map fun (members, rest) => (.obj members, rest)
    | '[' :: rest => (readItems? fuel rest).map fun (items, rest) => (.arr items, rest)
    | cs => scalar? cs

/-- The items of an array behind its bracket or a comma. -/
def readItems? : Nat → List Char → Option (List Json × List Char)
  | 0, _ => none
  | fuel + 1, cs =>
    match skipSpace cs with
    | ']' :: rest => some ([], rest)
    | cs => do
      let (item, rest) ← read? fuel cs
      match skipSpace rest with
      | ',' :: rest =>
        let (items, rest) ← readItems? fuel rest
        return (item :: items, rest)
      | ']' :: rest => return ([item], rest)
      | _ => none

/-- The members of an object behind its bracket or a comma. -/
def readMembers? : Nat → List Char → Option (List (String × Json) × List Char)
  | 0, _ => none
  | fuel + 1, cs =>
    match skipSpace cs with
    | '\x7d' :: rest => some ([], rest)
    | cs => do
      let (key, rest) ← scalar? cs
      let (value, rest) ←
        match skipSpace rest with
        | ':' :: rest => read? fuel rest
        | rest => some (.null, rest)
      match skipSpace rest with
      | ',' :: rest =>
        let (members, rest) ← readMembers? fuel rest
        return ((keyOf key, value) :: members, rest)
      | '\x7d' :: rest => return ([(keyOf key, value)], rest)
      | _ => none

end

/-- The value of a whole text. -/
def parse? (s : String) : Option Json := do
  let cs := s.toList
  let (value, rest) ← read? (2 * cs.length + 2) cs
  if (skipSpace rest).isEmpty then some value else none

end ControllerManager.Json.Flow
