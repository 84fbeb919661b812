/-!
# UTF-8

Texts as bytes: the encoded form of a text, and the reading of bytes that may not be a text.

## Main definitions

* `Text.Utf8.encode` — the bytes of a list of characters.
* `Text.Utf8.next?` — the character that the first bytes of a list encode.
* `Text.Utf8.pieces` — the characters of a byte list, and the bytes that belong to none.
* `Text.Utf8.decode?` — the characters of a byte list without stray bytes.
* `Text.Utf8.lossy` — the characters of a byte list with a mark in place of stray bytes.
-/

namespace ControllerManager.Text.Utf8

/-- The bytes of a list of characters. -/
def encode (cs : List Char) : List UInt8 := cs.flatMap String.utf8EncodeChar

/-- The value of the low six bits of a continuation byte. -/
def continuation? (b : UInt8) : Option Nat :=
  if 0x80 ≤ b.toNat && b.toNat < 0xc0 then some (b.toNat - 0x80) else none

/-- The character of the code point `n`, if the code point is one and lies at or above `least`:
an overlong form and a surrogate are refused. -/
def scalar? (least n : Nat) : Option Char :=
  if least ≤ n && (n < 0xd800 || (0xe000 ≤ n && n < 0x110000)) then some (Char.ofNat n) else none

/-- The character that the first bytes of a list encode, and how many further bytes it takes. -/
def next? : List UInt8 → Option (Char × Nat)
  | [] => none
  | b :: bs =>
    let n := b.toNat
    if n < 0x80 then some (Char.ofNat n, 0)
    else if n < 0xc2 then none
    else if n < 0xe0 then do
      let x ← bs[0]? >>= continuation?
      return (← scalar? 0x80 ((n - 0xc0) * 64 + x), 1)
    else if n < 0xf0 then do
      let x ← bs[0]? >>= continuation?
      let y ← bs[1]? >>= continuation?
      return (← scalar? 0x800 (((n - 0xe0) * 64 + x) * 64 + y), 2)
    else if n < 0xf5 then do
      let x ← bs[0]? >>= continuation?
      let y ← bs[1]? >>= continuation?
      let z ← bs[2]? >>= continuation?
      return (← scalar? 0x10000 ((((n - 0xf0) * 64 + x) * 64 + y) * 64 + z), 3)
    else none

/-- One item of a byte list that may not be a text. -/
inductive Piece where
  | char (c : Char)
  | stray (b : UInt8)
  deriving Repr, DecidableEq

/-- The characters of a byte list, and the bytes that belong to none. -/
def pieces : List UInt8 → List Piece
  | [] => []
  | b :: bs =>
    match next? (b :: bs) with
    | some (c, n) => .char c :: pieces (bs.drop n)
    | none => .stray b :: pieces bs
  termination_by bs => bs.length
  decreasing_by all_goals (simp only [List.length_drop, List.length_cons]; omega)

/-- The character of a piece. -/
def Piece.char? : Piece → Option Char
  | .char c => some c
  | .stray _ => none

/-- The characters of a byte list without stray bytes. -/
def decode? (bs : List UInt8) : Option (List Char) := (pieces bs).mapM Piece.char?

/-- Whether the second byte of a character can follow its first byte. -/
def canFollow (first second : UInt8) : Bool :=
  let low := if first = 0xe0 then 0xa0 else if first = 0xf0 then 0x90 else 0x80
  let high := if first = 0xed then 0x9f else if first = 0xf4 then 0x8f else 0xbf
  low ≤ second.toNat && second.toNat ≤ high

/-- How many bytes at the head of a list are the start of a character that is not complete, where
the list does not start with a character. A byte that starts no character counts alone. -/
def brokenLength : List UInt8 → Nat
  | [] => 0
  | b :: bs =>
    let continues (i : Nat) : Bool := ((bs[i]?).bind continuation?).isSome
    let second : Bool := (bs[0]?).any (canFollow b)
    if b.toNat < 0xe0 || 0xf5 ≤ b.toNat || !second then 1
    else if b.toNat < 0xf0 || !continues 1 then 2
    else 3

/-- The character that stands for bytes that are no character. -/
def replacement : Char := Char.ofNat 0xfffd

/-- The characters of a byte list. The start of a character that is not complete becomes one
mark. -/
def lossy : List UInt8 → List Char
  | [] => []
  | b :: bs =>
    match next? (b :: bs) with
    | some (c, n) => c :: lossy (bs.drop n)
    | none => replacement :: lossy (bs.drop (brokenLength (b :: bs) - 1))
  termination_by bs => bs.length
  decreasing_by all_goals (simp only [List.length_drop, List.length_cons]; omega)

end ControllerManager.Text.Utf8
