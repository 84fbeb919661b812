import ControllerManager.Json.Scan
import ControllerManager.Text.Moment
import ControllerManager.Text.Utf8

/-!
# Shapes of JSON values

A shape says what kind of value is expected at each place. Text is read along its shape, so that
the first fault counts, whether the text is malformed there or the value has another shape.

## Main definitions

* `Json.Shape` — what kind of value is expected.
* `Json.Shape.parse` — the value of a whole text along a shape.
* `Json.Shape.parseBytes` — the value of bytes along a shape.
-/

namespace ControllerManager.Json

/-- How the members of a record are written. -/
inductive RecordForm where
  /-- An object, or an array of the values in order. A name stands at most once. -/
  | positional
  /-- An object in which every member may be missing and the last one of a name counts. -/
  | keyed
  /-- An object in which a known name stands at most once. -/
  | collecting
  /-- As `collecting`, with one text under each of `apiVersion` and `kind`. -/
  | typed
  deriving Repr, DecidableEq

/-- What kind of value is expected. -/
inductive Shape where
  /-- Any value. -/
  | any
  /-- Any value, which is not kept. -/
  | ignored
  | text
  | truth
  /-- A whole number between two bounds. -/
  | integer (least greatest : Int)
  /-- The text of a moment. -/
  | moment
  /-- This text. -/
  | word (value : String)
  /-- One of several texts. -/
  | choice (names : List String)
  /-- Null or a value. -/
  | optional (shape : Shape)
  | list (shape : Shape)
  /-- An object with the given members, each with its name, whether a missing one stands for a
  default, and its shape; and the shape of all other members. -/
  | record (form : RecordForm) (fields : List (String × Bool × Shape)) (others : Shape)

namespace Shape

/-- An object whose members all have one shape. -/
def dictionary (shape : Shape) : Shape := .record .keyed [] shape

/-- Whether values of this shape are kept. -/
def isKept : Shape → Bool
  | .ignored => false
  | _ => true

/-- Whether null stands for the absence of a value. -/
def isOptional : Shape → Bool
  | .optional _ => true
  | _ => false

/-- The shape of the member `key` after the members `seen`. -/
def memberShape (form : RecordForm) (fields : List (String × Bool × Shape)) (others : Shape)
    (seen : List String) (key : String) : Except ReadFault Shape :=
  match fields.find? (·.1 == key) with
  | none => .ok others
  | some (_, _, shape) =>
    if form != .keyed && seen.contains key then .error .misshapen else .ok shape

/-- Whether an object with these members is complete. -/
def complete (form : RecordForm) (fields : List (String × Bool × Shape))
    (members : List (String × Json)) : Bool :=
  let present := fields.all fun (name, defaulted, shape) =>
    form == .keyed || defaulted || shape.isOptional || members.any (·.1 == name)
  let once (name : String) : Bool :=
    match members.filter (·.1 == name) with
    | [(_, .str _)] => true
    | _ => false
  present && (form != .typed || (once "apiVersion" && once "kind"))

/-- The nesting that is left inside of a container. -/
def nest (depth : Nat) : Except ReadFault Nat :=
  if depth ≤ 1 then .error .malformed else .ok (depth - 1)

/-- A text at the head of a list, and what follows it. -/
def readText (cs : List Char) : Except ReadFault (Json × List Char) :=
  match cs with
  | '"' :: _ => scanScalar true cs
  | _ => mismatch cs

/-- A truth value at the head of a list, and what follows it. -/
def readTruth (cs : List Char) : Except ReadFault (Json × List Char) :=
  match cs with
  | 't' :: _ | 'f' :: _ => scanScalar true cs
  | _ => mismatch cs

/-- A whole number between two bounds at the head of a list, and what follows it. -/
def readInteger (least greatest : Int) (cs : List Char) : Except ReadFault (Json × List Char) :=
  match scanScalar true cs with
  | .ok (.num (.whole n), rest) =>
    if least ≤ n && n ≤ greatest then .ok (.int n, rest) else .error .misshapen
  | _ => mismatch cs

/-- The text of a moment at the head of a list, and what follows it. -/
def readMoment (cs : List Char) : Except ReadFault (Json × List Char) :=
  match cs with
  | '"' :: _ => do
    match ← scanScalar true cs with
    | (.str s, rest) => if Text.isMoment s then .ok (.str s, rest) else .error .misshapen
    | _ => .error .misshapen
  | _ => mismatch cs

/-- One text at the head of a list, and what follows it. -/
def readWord (value : String) (cs : List Char) : Except ReadFault (Json × List Char) :=
  match cs with
  | '"' :: rest => do
    let (s, rest) ← scanString true rest
    if s = value then .ok (.str s, rest) else .error .misshapen
  | _ => mismatch cs

/-- One of several texts at the head of a list, and what follows it. It is written as itself, or as
an object with this name and no value. -/
def readChoice (names : List String) (depth : Nat) (cs : List Char) :
    Except ReadFault (Json × List Char) :=
  match cs with
  | '"' :: rest => do
    let (name, rest) ← scanString true rest
    if names.contains name then .ok (.str name, rest) else .error .misshapen
  | '\x7b' :: rest => do
    let _ ← nest depth
    match skipSpace rest with
    | '"' :: rest => do
      let (name, rest) ← scanString true rest
      if !names.contains name then .error .misshapen
      else
        match skipSpace rest with
        | ':' :: rest =>
          match skipSpace rest with
          | 'n' :: rest => do
            let (_, rest) ← scanWord ('n' :: rest)
            match skipSpace rest with
            | '\x7d' :: rest => .ok (.str name, rest)
            | _ => .error .malformed
          | rest => mismatch rest
        | _ => .error .malformed
    | rest => mismatch rest
  | _ => .error .malformed

mutual

/-- The value of a shape at the head of a text, with at most `depth` containers inside of each
other, and what follows it. -/
def read (fuel depth : Nat) (shape : Shape) (cs : List Char) :
    Except ReadFault (Json × List Char) :=
  match fuel with
  | 0 => .error .malformed
  | fuel + 1 =>
    let cs := skipSpace cs
    match shape with
    | .any =>
      match cs with
      | '[' :: rest => do
        let (items, rest) ← readItems fuel (← nest depth) .any true rest
        return (.arr items, rest)
      | '\x7b' :: rest => do
        let (members, rest) ← readMembers fuel (← nest depth) .keyed [] .any [] rest
        return (.obj members, rest)
      | _ => scanScalar true cs
    | .ignored =>
      match cs with
      | '[' :: rest => do
        let (items, rest) ← readItems fuel depth .ignored true rest
        return (.arr items, rest)
      | '\x7b' :: rest => do
        let (members, rest) ← readMembers fuel depth .keyed [] .ignored [] rest
        return (.obj members, rest)
      | _ => scanScalar false cs
    | .text => readText cs
    | .truth => readTruth cs
    | .integer least greatest => readInteger least greatest cs
    | .moment => readMoment cs
    | .word value => readWord value cs
    | .choice names => readChoice names depth cs
    | .optional shape =>
      match cs with
      | 'n' :: _ => scanScalar true cs
      | _ => read fuel depth shape cs
    | .list shape =>
      match cs with
      | '[' :: rest => do
        let (items, rest) ← readItems fuel (← nest depth) shape true rest
        return (.arr items, rest)
      | _ => mismatch cs
    | .record form fields others =>
      match cs with
      | '\x7b' :: rest => do
        let (members, rest) ← readMembers fuel (← nest depth) form fields others [] rest
        return (.obj members, rest)
      | '[' :: rest =>
        if form == .positional then do
          let (members, rest) ← readPositions fuel (← nest depth) fields true rest
          return (.obj members, rest)
        else mismatch cs
      | _ => mismatch cs
termination_by structural fuel

/-- The items of an array behind its opening bracket, or behind an item. -/
def readItems (fuel depth : Nat) (shape : Shape) (first : Bool) (cs : List Char) :
    Except ReadFault (List Json × List Char) :=
  match fuel with
  | 0 => .error .malformed
  | fuel + 1 =>
    match first, skipSpace cs with
    | _, ']' :: rest => .ok ([], rest)
    | true, cs => do
      let (item, rest) ← read fuel depth shape cs
      let (items, rest) ← readItems fuel depth shape false rest
      return (item :: items, rest)
    | false, ',' :: rest =>
      match skipSpace rest with
      | ']' :: _ => .error .malformed
      | rest => do
        let (item, rest) ← read fuel depth shape rest
        let (items, rest) ← readItems fuel depth shape false rest
        return (item :: items, rest)
    | false, _ => .error .malformed
termination_by structural fuel

/-- The members of an object behind its opening brace, or behind the members `seen`, last
first. -/
def readMembers (fuel depth : Nat) (form : RecordForm) (fields : List (String × Bool × Shape))
    (others : Shape) (seen : List (String × Json)) (cs : List Char) :
    Except ReadFault (List (String × Json) × List Char) :=
  match fuel with
  | 0 => .error .malformed
  | fuel + 1 =>
    let start : Except ReadFault (List Char) :=
      match seen.isEmpty, skipSpace cs with
      | _, '\x7d' :: rest => .ok ('\x7d' :: rest)
      | true, rest => .ok rest
      | false, ',' :: rest =>
        match skipSpace rest with
        | '\x7d' :: _ => .error .malformed
        | rest => .ok rest
      | false, _ => .error .malformed
    match start with
    | .error fault => .error fault
    | .ok ('\x7d' :: rest) =>
      let members := seen.reverse
      if complete form fields members then
        .ok (members.filter fun m => fields.any (·.1 == m.1) || others.isKept, rest)
      else .error .misshapen
    | .ok ('"' :: rest) => do
      let (key, rest) ← scanString (!fields.isEmpty || others.isKept) rest
      let shape ← memberShape form fields others (seen.map (·.1)) key
      match skipSpace rest with
      | ':' :: rest => do
        let (value, rest) ← read fuel depth shape rest
        readMembers fuel depth form fields others ((key, value) :: seen) rest
      | _ => .error .malformed
    | .ok _ => .error .malformed
termination_by structural fuel

/-- The values of the fields in order behind an opening bracket, or behind a value. -/
def readPositions (fuel depth : Nat) (fields : List (String × Bool × Shape)) (first : Bool)
    (cs : List Char) : Except ReadFault (List (String × Json) × List Char) :=
  match fuel with
  | 0 => .error .malformed
  | fuel + 1 =>
    match fields, first, skipSpace cs with
    | fields, _, ']' :: rest =>
      if fields.all fun (_, defaulted, _) => defaulted then .ok ([], rest) else .error .misshapen
    | [], _, _ => .error .malformed
    | (name, _, shape) :: fields, true, cs => do
      let (value, rest) ← read fuel depth shape cs
      let (members, rest) ← readPositions fuel depth fields false rest
      return ((name, value) :: members, rest)
    | (name, _, shape) :: fields, false, ',' :: rest =>
      match skipSpace rest with
      | ']' :: _ => .error .malformed
      | rest => do
        let (value, rest) ← read fuel depth shape rest
        let (members, rest) ← readPositions fuel depth fields false rest
        return ((name, value) :: members, rest)
    | _, false, _ => .error .malformed
termination_by structural fuel

end

/-- The most containers inside of each other. -/
def maxDepth : Nat := 128

/-- The value of a whole text along a shape. -/
def parse (shape : Shape) (s : String) : Except ReadFault Json := do
  let cs := s.toList
  let (value, rest) ← read (2 * cs.length + 2) maxDepth shape cs
  if (skipSpace rest).isEmpty then .ok value else .error .malformed

/-- The characters that stand for a piece of a byte list. A stray byte becomes a letter that starts
no word, with the escape of half a character behind it: both are accepted in a string that is not
kept, and nowhere else. -/
def spell : Text.Utf8.Piece → List Char
  | .char c => [c]
  | .stray _ => "x\\udc00".toList

/-- The value of bytes along a shape. Bytes that belong to no character are malformed, except in a
string that is not kept. -/
def parseBytes (shape : Shape) (bs : List UInt8) : Except ReadFault Json :=
  shape.parse (String.ofList ((Text.Utf8.pieces bs).flatMap spell))

end Shape

end ControllerManager.Json
