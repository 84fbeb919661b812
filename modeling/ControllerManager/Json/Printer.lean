import ControllerManager.Json.Basic

/-!
# Printing of JSON values

The compact form without blanks. A decimal is written positionally while its point stands within
sixteen digits to the right, or within five zeros to the left, of the first digit, and with a
power of ten otherwise.

## Main definitions

* `Json.print` — the compact form of a value.
-/

namespace ControllerManager.Json

/-- The written form of a character inside a string. -/
def escapeChar (c : Char) : List Char :=
  match c with
  | '"' => ['\\', '"']
  | '\\' => ['\\', '\\']
  | '\n' => ['\\', 'n']
  | '\r' => ['\\', 'r']
  | '\t' => ['\\', 't']
  | '\x08' => ['\\', 'b']
  | '\x0c' => ['\\', 'f']
  | c =>
    if c.toNat < 0x20 then
      let digits := Nat.toDigits 16 c.toNat
      ['\\', 'u'] ++ List.replicate (4 - digits.length) '0' ++ digits
    else [c]

/-- A string between double quotes. -/
def printString (s : String) : List Char := '"' :: (s.toList.flatMap escapeChar ++ ['"'])

/-- A decimal that is not zero: digits, and the place of the point among them. -/
def printDecimal (s : Decimal.Scaled) : List Char :=
  let digits := Nat.toDigits 10 s.digits
  let point : Int := digits.length + s.exponent
  if 0 ≤ s.exponent && point ≤ 16 then
    digits ++ List.replicate s.exponent.toNat '0' ++ ['.', '0']
  else if 0 < point && point ≤ 16 then
    digits.take point.toNat ++ ['.'] ++ digits.drop point.toNat
  else if -5 < point && point ≤ 0 then
    ['0', '.'] ++ List.replicate (-point).toNat '0' ++ digits
  else
    let power := 'e' :: (toString (point - 1)).toList
    match digits with
    | [d] => d :: power
    | d :: ds => d :: '.' :: ds ++ power
    | [] => power

/-- A number. -/
def Number.print : Number → List Char
  | .whole n => (toString n).toList
  | .decimal negative magnitude =>
    (if negative then ['-'] else []) ++
      if magnitude.digits = 0 then ['0', '.', '0'] else printDecimal magnitude

mutual

/-- The compact form of a value. -/
def print : Json → List Char
  | .null => "null".toList
  | .bool true => "true".toList
  | .bool false => "false".toList
  | .num n => n.print
  | .str s => printString s
  | .arr items => '[' :: printItems items ++ [']']
  | .obj members => '\x7b' :: printMembers members ++ ['\x7d']

/-- The items of an array with commas between them. -/
def printItems : List Json → List Char
  | [] => []
  | [j] => j.print
  | j :: rest => j.print ++ ',' :: printItems rest

/-- The members of an object with commas between them. -/
def printMembers : List (String × Json) → List Char
  | [] => []
  | [(k, v)] => printString k ++ ':' :: v.print
  | (k, v) :: rest => printString k ++ ':' :: v.print ++ ',' :: printMembers rest

end

/-- The compact form as a text. -/
def toText (j : Json) : String := String.ofList j.print

end ControllerManager.Json
