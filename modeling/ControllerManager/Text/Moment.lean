import ControllerManager.Text.Decimal

/-!
# Written moments

Dates with times as `2026-01-31T12:00:00.5Z`: four digits of a year, an optional fraction of a
second, and an offset by a letter or by hours and minutes.

## Main definitions

* `Text.isMoment` — whether a text has that form and denotes a moment of the calendar.
-/

namespace ControllerManager.Text

/-- A number of exactly `count` digits at the head of a list. -/
def fixedDigits? (count : Nat) (cs : List Char) : Option (Nat × List Char) :=
  let ds := cs.take count
  if ds.length = count && ds.all Char.isDigit then
    some (ds.foldl (fun v d => v * 10 + (digit? d).getD 0) 0, cs.drop count)
  else none

/-- What follows one of the characters `allowed` at the head of a list. -/
def oneOf? (allowed : List Char) : List Char → Option (List Char)
  | [] => none
  | c :: cs => if allowed.contains c then some cs else none

/-- The years with a 29th of February. -/
def isLeapYear (year : Nat) : Bool := year % 4 == 0 && (year % 100 != 0 || year % 400 == 0)

/-- The number of days of a month. -/
def daysInMonth (year month : Nat) : Nat :=
  if month == 2 then (if isLeapYear year then 29 else 28)
  else if [4, 6, 9, 11].contains month then 30
  else 31

/-- Whether a list is an offset: the letter Z, or a sign with hours and minutes. -/
def isOffset (cs : List Char) : Bool :=
  match cs with
  | ['Z'] | ['z'] => true
  | _ =>
    match (do
      let (hours, rest) ← fixedDigits? 2 (← oneOf? ['+', '-'] cs)
      let (minutes, rest) ← fixedDigits? 2 ((oneOf? [':'] rest).getD rest)
      return (hours, minutes, rest) : Option (Nat × Nat × List Char)) with
    | some (hours, minutes, rest) => hours < 24 && minutes < 60 && rest.isEmpty
    | none => false

/-- Whether a text is a written moment. -/
def isMoment (s : String) : Bool :=
  match (do
    let (year, rest) ← fixedDigits? 4 s.toList
    let (month, rest) ← fixedDigits? 2 (← oneOf? ['-'] rest)
    let (day, rest) ← fixedDigits? 2 (← oneOf? ['-'] rest)
    let (hour, rest) ← fixedDigits? 2 (← oneOf? ['T', 't', ' '] rest)
    let (minute, rest) ← fixedDigits? 2 (← oneOf? [':'] rest)
    let (second, rest) ← fixedDigits? 2 (← oneOf? [':'] rest)
    let rest ←
      match oneOf? ['.'] rest with
      | none => some rest
      | some rest =>
        let fraction := rest.takeWhile Char.isDigit
        if fraction.isEmpty then none else some (rest.drop fraction.length)
    let inRange := 1 ≤ month && month ≤ 12 && 1 ≤ day && day ≤ daysInMonth year month &&
      hour < 24 && minute < 60 && second ≤ 60
    return inRange && isOffset rest : Option Bool) with
  | some valid => valid
  | none => false

end ControllerManager.Text
