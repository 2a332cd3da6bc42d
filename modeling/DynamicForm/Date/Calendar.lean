import DynamicForm.Text.Digits

/-!
# The calendar

Dates of the years 1 to 9999 in the Gregorian calendar extended to the past. Weekdays are counted
from Monday, which is zero.
-/

namespace DynamicForm

/-- A day of the calendar. -/
structure Date where
  year : Nat
  month : Nat
  day : Nat
deriving DecidableEq, Repr

namespace Date

def isLeap (year : Nat) : Bool := year % 4 == 0 && (year % 100 != 0 || year % 400 == 0)

/-- How many days a month has; nothing for a month that does not exist. -/
def monthDays? (year month : Nat) : Option Nat :=
  match month with
  | 2 => some (if isLeap year then 29 else 28)
  | 4 | 6 | 9 | 11 => some 30
  | 1 | 3 | 5 | 7 | 8 | 10 | 12 => some 31
  | _ => none

/-- The date with these parts, if there is one. -/
def ofParts? (year month day : Nat) : Option Date := do
  let days ← monthDays? year month
  if 1 ≤ year ∧ year ≤ 9999 ∧ 1 ≤ day ∧ day ≤ days then some ⟨year, month, day⟩ else none

/-- How many days lie in the months of a year before this one. -/
def daysBeforeMonth (year month : Nat) : Nat :=
  ((List.range (month - 1)).map fun m => (monthDays? year (m + 1)).getD 0).foldl Nat.add 0

/-- The number of the day, counted from one on the first day of the year 1. -/
def ordinal (d : Date) : Nat :=
  let y := d.year - 1
  365 * y + y / 4 - y / 100 + y / 400 + daysBeforeMonth d.year d.month + d.day

/-- Monday is zero. -/
def weekday (d : Date) : Nat := (d.ordinal + 6) % 7

/-- The day after; nothing after the last day of the year 9999. -/
def next? (d : Date) : Option Date :=
  ofParts? d.year d.month (d.day + 1) <|> ofParts? d.year (d.month + 1) 1 <|>
    ofParts? (d.year + 1) 1 1

/-- The date `n` days later. -/
def addDays? (d : Date) : Nat → Option Date
  | 0 => some d
  | n + 1 => d.next?.bind fun e => e.addDays? n

/-- The first such weekday from this day on. -/
def onWeekday? (d : Date) (weekday : Nat) : Option Date :=
  d.addDays? ((7 - d.weekday + weekday) % 7)

/-- The date that a text begins with: four digits, two, and two, with a character between. -/
def ofStart? (s : String) : Option Date :=
  let cs := s.toList
  let number (first count : Nat) : Nat := Text.asciiNumber ((cs.drop first).take count)
  ofParts? (number 0 4) (number 5 2) (number 8 2)

/-- Year, month and day joined by hyphens. -/
def text (d : Date) : String :=
  Text.padded 4 d.year ++ "-" ++ Text.padded 2 d.month ++ "-" ++ Text.padded 2 d.day

end Date

end DynamicForm
