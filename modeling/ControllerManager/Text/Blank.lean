import ControllerManager.Text.CodeRange

/-!
# Blank characters

The characters with the Unicode property `White_Space`, and the removal of such characters from
the ends of a text.

## Main definitions

* `Text.isBlank` — the property `White_Space`.
* `Text.trim` — a text without the blanks at its two ends.
-/

namespace ControllerManager.Text

/-- The code points with the property `White_Space`. -/
def blankRanges : List (Nat × Nat) :=
  [(0x9, 0xd), (0x20, 0x20), (0x85, 0x85), (0xa0, 0xa0), (0x1680, 0x1680), (0x2000, 0x200a),
   (0x2028, 0x2029), (0x202f, 0x202f), (0x205f, 0x205f), (0x3000, 0x3000)]

/-- The property `White_Space`. -/
def isBlank (c : Char) : Bool := inRanges blankRanges c

/-- A list without the leading and trailing elements that satisfy `p`. -/
def trimList {α : Type} (p : α → Bool) (cs : List α) : List α :=
  ((cs.dropWhile p).reverse.dropWhile p).reverse

/-- A list without the trailing elements that satisfy `p`. -/
def trimEndList {α : Type} (p : α → Bool) (cs : List α) : List α :=
  (cs.reverse.dropWhile p).reverse

/-- A text without the blanks at its two ends. -/
def trim (s : String) : String := String.ofList (trimList isBlank s.toList)

end ControllerManager.Text
