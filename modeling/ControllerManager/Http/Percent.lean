import ControllerManager.Text.Utf8

/-!
# Percent coding

The reading of a part of a path in which bytes may be written as a percent sign with two digits
in base sixteen. A percent sign without two such digits stands for itself.

## Main definitions

* `Http.percentBytes` — the bytes that a text stands for.
* `Http.percentDecode?` — the text that those bytes encode.
-/

namespace ControllerManager.Http

/-- The value of a digit in base sixteen, given as a byte. -/
def hexByte? (b : UInt8) : Option Nat :=
  let n := b.toNat
  if 48 ≤ n && n ≤ 57 then some (n - 48)
  else if 65 ≤ n && n ≤ 70 then some (n - 55)
  else if 97 ≤ n && n ≤ 102 then some (n - 87)
  else none

/-- The bytes that a byte list with percent signs stands for. -/
def percentBytes : List UInt8 → List UInt8
  | 0x25 :: a :: b :: rest =>
    match hexByte? a, hexByte? b with
    | some x, some y => .ofNat (x * 16 + y) :: percentBytes rest
    | _, _ => 0x25 :: percentBytes (a :: b :: rest)
  | b :: rest => b :: percentBytes rest
  | [] => []

/-- The text that a part of a path stands for, unless its bytes are no text. -/
def percentDecode? (cs : List Char) : Option (List Char) :=
  Text.Utf8.decode? (percentBytes (Text.Utf8.encode cs))

end ControllerManager.Http
