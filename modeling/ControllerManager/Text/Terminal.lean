/-!
# Control sequences

A text may hold characters that a terminal obeys instead of showing them: single control
characters, and sequences that begin with the escape character. What is shown is the rest. Line
feeds, tabs and other characters of the layout are shown, and end a sequence that they stand in.

## Main definitions

* `Text.Terminal.Position` — where a reader of a text stands.
* `Text.Terminal.step` — what a character means there.
* `Text.shown` — a text without its control sequences.
-/

namespace ControllerManager.Text

namespace Terminal

/-- Where a reader of a text stands. -/
inductive Position where
  | outside
  /-- Behind the escape character. -/
  | introduced
  /-- Behind the escape character and a mark, up to the next letter. -/
  | marked
  /-- Between a bracket and a letter. -/
  | parameters
  /-- In a command, which a bell ends. -/
  | command
  /-- In a string, which only the escape character ends. -/
  | string
  deriving Repr, DecidableEq

/-- The control characters of the layout: tab, line feed, form feed and carriage return. -/
def isLayout (c : Char) : Bool := c = '\t' || c = '\n' || c = '\x0c' || c = '\r'

/-- Where the sequence goes on whose escape character stands before `c`. -/
def introduce (c : Char) : Position :=
  if c < '0' then .marked
  else if c = '[' then .parameters
  else if c = ']' then .command
  else if c = 'P' || c = 'X' || c = '^' || c = '_' then .string
  else .outside

/-- Where a reader stands behind a visible character of a sequence. -/
def continueWith (c : Char) : Position → Position
  | .outside => .outside
  | .introduced => introduce c
  | .marked => if c < '0' then .marked else .outside
  | .parameters => if c < '@' then .parameters else .outside
  | .command => .command
  | .string => .string

/-- Where a reader stands behind a character, and whether the character is shown. -/
def step (p : Position) (c : Char) : Position × Bool :=
  if c = '\x1b' then (.introduced, false)
  else if c = '\x18' || c = '\x1a' then (.outside, false)
  else
    match p with
    | .outside => (.outside, isLayout c || (' ' ≤ c && c != '\x7f'))
    | .command => (if c = '\x07' then .outside else .command, false)
    | .string => (.string, false)
    | p =>
      if isLayout c then (.outside, true)
      else if ' ' ≤ c && c < '\x7f' then (continueWith c p, false)
      else (p, false)

/-- The characters that are shown to a reader at a position. -/
def shownFrom (p : Position) : List Char → List Char
  | [] => []
  | c :: cs =>
    match step p c with
    | (p, true) => c :: shownFrom p cs
    | (p, false) => shownFrom p cs

end Terminal

/-- A text without its control sequences. -/
def shown (s : String) : String := String.ofList (Terminal.shownFrom .outside s.toList)

end ControllerManager.Text
