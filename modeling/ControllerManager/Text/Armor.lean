import ControllerManager.Text.Base64

/-!
# Armored bytes

Bytes between a line that begins a block and a line that ends it, each with the label of the block:
`-----BEGIN CERTIFICATE-----` and `-----END CERTIFICATE-----`. Text around the blocks is ignored.

## Main definitions

* `Text.Armor.Block` — a label with its bytes.
* `Text.Armor.blocks?` — the blocks of a text.
-/

namespace ControllerManager.Text.Armor

/-- A label with its bytes. -/
structure Block where
  label : String
  bytes : List UInt8
  deriving Repr, DecidableEq

/-- What stands before the first occurrence of a mark, and what stands behind it. -/
def splitAt? (mark : List Char) : List Char → Option (List Char × List Char)
  | [] => if mark.isEmpty then some ([], []) else none
  | c :: cs =>
    if mark.isPrefixOf (c :: cs) then some ([], (c :: cs).drop mark.length)
    else (splitAt? mark cs).map fun (before, behind) => (c :: before, behind)

/-- The mark in front of the first label of a block. -/
def opening : List Char := "-----BEGIN ".toList

/-- The mark in front of the second label of a block. -/
def closing : List Char := "-----END ".toList

/-- The mark behind a label. -/
def dashes : List Char := "-----".toList

/-- The first block of a text, as its two labels and its letters, and what stands behind it. -/
def next? (cs : List Char) : Option ((List Char × List Char × List Char) × List Char) := do
  let (_, rest) ← splitAt? opening cs
  let (label, rest) ← splitAt? dashes rest
  let (letters, rest) ← splitAt? closing rest
  let (last, rest) ← splitAt? dashes rest
  return ((label, last, letters), rest)

/-- The bytes of a block whose labels agree. -/
def block? (label last letters : List Char) : Option Block := do
  if label ≠ last then none
  let bytes ← Base64.decodeChars? (letters.filter fun c => !c.isWhitespace)
  return ⟨String.ofList label, bytes⟩

/-- The blocks of a text with at most `fuel` of them. -/
def blocksFrom? : Nat → List Char → Option (List Block)
  | 0, _ => some []
  | fuel + 1, cs =>
    match next? cs with
    | none => some []
    | some ((label, last, letters), rest) => do
      let block ← block? label last letters
      return block :: (← blocksFrom? fuel rest)

/-- The blocks of a text, unless one of them is damaged. -/
def blocks? (cs : List Char) : Option (List Block) := blocksFrom? cs.length cs

end ControllerManager.Text.Armor
