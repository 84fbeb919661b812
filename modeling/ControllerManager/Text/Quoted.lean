import ControllerManager.Text.Printable
import ControllerManager.Text.Utf8

/-!
# Quoted texts

The form in which messages show a text between double quotes: the quote, the backslash and the
common control characters by a letter, every other character without a visible form, and every
combining mark, by its code point in braces.

## Main definitions

* `Text.Quoted.escape` — the written form of one character.
* `Text.quoted` — a text between double quotes.
* `Text.quotedBytes` — bytes that may not be a text between double quotes.
-/

namespace ControllerManager.Text

namespace Quoted

/-- The digits of a number in base sixteen. -/
def hexDigits (n : Nat) : List Char := Nat.toDigits 16 n

/-- The written form of a character by its code point. -/
def byCodePoint (c : Char) : List Char := ['\\', 'u', '\x7b'] ++ hexDigits c.toNat ++ ['\x7d']

/-- The written form of one character. -/
def escape (c : Char) : List Char :=
  match c with
  | '\x00' => ['\\', '0']
  | '\t' => ['\\', 't']
  | '\r' => ['\\', 'r']
  | '\n' => ['\\', 'n']
  | '\\' => ['\\', '\\']
  | '"' => ['\\', '"']
  | c => if isGraphemeExtend c || !isPrintable c then byCodePoint c else [c]

/-- The written form of a byte outside of any character: two capital digits in base sixteen. -/
def escapeByte (b : UInt8) : List Char :=
  let digits := (hexDigits b.toNat).map Char.toUpper
  ['\\', 'x'] ++ List.replicate (2 - digits.length) '0' ++ digits

/-- The written form of a piece. -/
def escapePiece : Utf8.Piece → List Char
  | .char c => escape c
  | .stray b => escapeByte b

end Quoted

/-- A text between double quotes. -/
def quoted (s : String) : String :=
  String.ofList ('"' :: (s.toList.flatMap Quoted.escape ++ ['"']))

/-- Bytes that may not be a text, between double quotes. -/
def quotedBytes (bs : List UInt8) : String :=
  String.ofList ('"' :: ((Utf8.pieces bs).flatMap Quoted.escapePiece ++ ['"']))

end ControllerManager.Text
