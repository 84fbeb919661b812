/-!
# Lines

The lines of a text. The first line ends with a line feed, or with a carriage return and a line
feed.

## Main definitions

* `Text.firstLine` — the first line of a text.
* `Text.lines` — the lines of a text.
-/

namespace ControllerManager.Text

/-- The first line of a list of characters. -/
def firstLineOf : List Char → List Char
  | [] | '\n' :: _ | '\r' :: '\n' :: _ => []
  | c :: cs => c :: firstLineOf cs

/-- The first line of a text. -/
def firstLine (s : String) : String := String.ofList (firstLineOf s.toList)

/-- The lines of a text whose last line has its end. -/
def lines (s : String) : List String := (s.splitOn "\n").dropLast

end ControllerManager.Text
