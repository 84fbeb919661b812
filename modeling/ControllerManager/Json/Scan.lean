import ControllerManager.Json.Number

/-!
# The words of JSON

The reading of blanks, strings, numbers and literal words at the head of a list of characters.

## Main definitions

* `Json.ReadFault` — malformed text, or a value of another shape than expected.
* `Json.scanString`, `Json.scanNumber`, `Json.scanWord` — one word and what follows it.
-/

namespace ControllerManager.Json

/-- Why a text does not denote a value of the expected shape. -/
inductive ReadFault where
  /-- The text is not in the format, or it ends too early. -/
  | malformed
  /-- The text denotes a value, but not one of the expected shape. -/
  | misshapen
  deriving Repr, DecidableEq

/-- The characters between words. -/
def isSpace (c : Char) : Bool := c == ' ' || c == '\n' || c == '\t' || c == '\r'

/-- A text without the blanks at its head. -/
def skipSpace (cs : List Char) : List Char := cs.dropWhile isSpace

/-- The value of a digit in base sixteen. -/
def hexValue? (c : Char) : Option Nat :=
  if '0' ≤ c && c ≤ '9' then some (c.toNat - 48)
  else if 'a' ≤ c && c ≤ 'f' then some (c.toNat - 87)
  else if 'A' ≤ c && c ≤ 'F' then some (c.toNat - 55)
  else none

/-- Four digits in base sixteen. -/
def hexUnit? : List Char → Option (Nat × List Char)
  | a :: b :: c :: d :: rest => do
    let a ← hexValue? a
    let b ← hexValue? b
    let c ← hexValue? c
    let d ← hexValue? d
    return (((a * 16 + b) * 16 + c) * 16 + d, rest)
  | _ => none

/-- The character of a `\u` escape, which may take a second escape for its lower half. An escape
that is half a character is refused if `strict`, and stands for the replacement character
otherwise. -/
def unitChar? (strict : Bool) (cs : List Char) : Option (Char × List Char) := do
  let (n, rest) ← hexUnit? cs
  if n < 0xd800 || 0xe000 ≤ n then return (Char.ofNat n, rest)
  else if !strict then return ('\ufffd', rest)
  else if 0xdc00 ≤ n then none
  else
    match rest with
    | '\\' :: 'u' :: rest =>
      let (m, rest) ← hexUnit? rest
      if 0xdc00 ≤ m && m < 0xe000 then
        return (Char.ofNat (0x10000 + (n - 0xd800) * 0x400 + (m - 0xdc00)), rest)
      else none
    | _ => none

/-- The character of an escape of one letter. -/
def letterEscape? : Char → Option Char
  | '"' => some '"'
  | '\\' => some '\\'
  | '/' => some '/'
  | 'b' => some '\x08'
  | 'f' => some '\x0c'
  | 'n' => some '\n'
  | 'r' => some '\r'
  | 't' => some '\t'
  | _ => none

/-- The rest of a string behind its opening quote, after the characters `seen`, last first. -/
def scanStringFrom (strict : Bool) (fuel : Nat) (seen : List Char) (cs : List Char) :
    Except ReadFault (String × List Char) :=
  match fuel with
  | 0 => .error .malformed
  | fuel + 1 =>
    match cs with
    | [] => .error .malformed
    | '"' :: rest => .ok (String.ofList seen.reverse, rest)
    | '\\' :: 'u' :: rest =>
      match unitChar? strict rest with
      | some (c, rest) => scanStringFrom strict fuel (c :: seen) rest
      | none => .error .malformed
    | '\\' :: e :: rest =>
      match letterEscape? e with
      | some c => scanStringFrom strict fuel (c :: seen) rest
      | none => .error .malformed
    | c :: rest =>
      if c.toNat < 0x20 || c == '\\' then .error .malformed
      else scanStringFrom strict fuel (c :: seen) rest

/-- The rest of a string behind its opening quote. -/
def scanString (strict : Bool) (cs : List Char) : Except ReadFault (String × List Char) :=
  scanStringFrom strict (cs.length + 1) [] cs

/-- One or more digits. -/
def scanDigits (cs : List Char) : Except ReadFault (List Char × List Char) :=
  let ds := cs.takeWhile Char.isDigit
  if ds.isEmpty then .error .malformed else .ok (ds, cs.drop ds.length)

/-- The digits before the point: a zero alone, or digits that do not start with one. -/
def scanWhole (cs : List Char) : Except ReadFault (List Char × List Char) := do
  let (ds, rest) ← scanDigits cs
  if 1 < ds.length && ds.head? == some '0' then .error .malformed else .ok (ds, rest)

/-- The digits behind a point, where there is one. -/
def scanFraction (cs : List Char) : Except ReadFault (Option (List Char) × List Char) :=
  match cs with
  | '.' :: rest => do
    let (ds, rest) ← scanDigits rest
    return (some ds, rest)
  | _ => .ok (none, cs)

/-- The power of ten, where there is one. -/
def scanPower (cs : List Char) : Except ReadFault (Option Int × List Char) :=
  match cs with
  | e :: rest =>
    if e == 'e' || e == 'E' then
      let (sign, rest) : Int × List Char :=
        match rest with
        | '+' :: rest => (1, rest)
        | '-' :: rest => (-1, rest)
        | _ => (1, rest)
      do
        let (ds, rest) ← scanDigits rest
        let value := ds.foldl (fun v d => v * 10 + (Text.digit? d).getD 0) 0
        return (some (sign * value), rest)
    else .ok (none, cs)
  | [] => .ok (none, cs)

/-- A number. One that is out of range is refused if `strict`, and taken as zero otherwise. -/
def scanNumber (strict : Bool) (cs : List Char) : Except ReadFault (Number × List Char) := do
  let (negative, cs) : Bool × List Char :=
    match cs with
    | '-' :: rest => (true, rest)
    | _ => (false, cs)
  let (wholeDigits, cs) ← scanWhole cs
  let (fractionDigits, cs) ← scanFraction cs
  let (power, cs) ← scanPower cs
  match (Literal.mk negative wholeDigits fractionDigits power).number? with
  | some n => .ok (n, cs)
  | none => if strict then .error .malformed else .ok (.whole 0, cs)

/-- The literal words. -/
def words : List (List Char × Json) :=
  [("null".toList, .null), ("true".toList, .bool true), ("false".toList, .bool false)]

/-- A literal word. -/
def scanWord (cs : List Char) : Except ReadFault (Json × List Char) :=
  match words.find? fun w => w.1.isPrefixOf cs with
  | some (w, j) => .ok (j, cs.drop w.length)
  | none => .error .malformed

/-- A value that is neither an array nor an object. -/
def scanScalar (strict : Bool) (cs : List Char) : Except ReadFault (Json × List Char) :=
  match cs with
  | '"' :: rest => (scanString strict rest).map fun (s, rest) => (.str s, rest)
  | c :: _ =>
    if c == '-' || c.isDigit then (scanNumber strict cs).map fun (n, rest) => (.num n, rest)
    else scanWord cs
  | [] => .error .malformed

/-- The fault of a value that is not of the expected kind. A scalar is read to its end first. -/
def mismatch {α : Type} (cs : List Char) : Except ReadFault α :=
  match cs with
  | '[' :: _ | '\x7b' :: _ => .error .misshapen
  | _ =>
    match scanScalar true cs with
    | .ok _ => .error .misshapen
    | .error fault => .error fault

end ControllerManager.Json
