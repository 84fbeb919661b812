/-!
# Ranges of code points

Classes of characters are kept as tables of inclusive ranges of code points, and simple letter
mappings as tables of strided ranges with one offset each.

## Main definitions

* `Text.inRanges` — membership of a character in a table of ranges.
* `Text.ShiftRange` — a run of code points that are moved by one offset.
-/

namespace ControllerManager.Text

/-- Membership of a character in a table of inclusive ranges. -/
def inRanges (table : List (Nat × Nat)) (c : Char) : Bool :=
  table.any fun r => r.1 ≤ c.toNat && c.toNat ≤ r.2

/-- The code points `first`, `first + stride`, …, `last`, each moved by `offset`. -/
structure ShiftRange where
  first : Nat
  last : Nat
  stride : Nat
  offset : Int
  deriving Repr, DecidableEq

/-- Membership of a code point in the run. -/
def ShiftRange.contains (r : ShiftRange) (n : Nat) : Bool :=
  r.first ≤ n && n ≤ r.last && (n - r.first) % r.stride == 0

/-- The character at the offset of the first run that holds `c`, and `c` outside of all runs. -/
def shift (table : List ShiftRange) (c : Char) : Char :=
  match table.find? (·.contains c.toNat) with
  | some r => Char.ofNat (c.toNat + r.offset).toNat
  | none => c

end ControllerManager.Text
