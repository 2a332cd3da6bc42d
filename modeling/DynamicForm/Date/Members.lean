import DynamicForm.Date.Calendar
import DynamicForm.Date.Words

/-!
# Year, month and day among the numbers of a date

The numbers of a date are collected in the order in which they are written; a month name or a long
number fixes what it stands for. `Members.resolve` decides the rest: numbers above 31 are years,
above 12 not months, and otherwise the month comes first.
-/

namespace DynamicForm.Date

/-- What a number of a date stands for. -/
inductive Label where
  | year
  | month
  | day
deriving DecidableEq, Repr

/-- The numbers of a date so far. -/
structure Members where
  values : List Nat := []
  /-- A number of three digits or more has been written, so no century has to be guessed. -/
  century : Bool := false
  yearAt : Option Nat := none
  monthAt : Option Nat := none
  dayAt : Option Nat := none

/-- A number as written, with the digits after the point. -/
structure Amount where
  whole : Nat
  fraction : List Nat
deriving Repr

/-- Why a written date cannot be read. -/
inductive Failure where
  /-- The text spells no date. -/
  | unreadable
  /-- An amount has too many digits for its fraction to be taken. -/
  | tooLong
deriving DecidableEq, Repr

/-- The values of decimal digits, if all characters are such digits. -/
def digitValues? (t : Token) : Option (List Nat) := t.mapM Text.decimalValue?

/-- The number that a token of decimal digits spells. -/
def number? (t : Token) : Option Nat :=
  if t.isEmpty then none else (digitValues? t).map Text.digitsValue

/-- The amount that a token spells. -/
def amount? (t : Token) : Option Amount :=
  let whole := t.takeWhile Text.isDecimal
  match t.drop whole.length with
  | [] => (number? whole).map fun n => ⟨n, []⟩
  | '.' :: fraction =>
    if whole.isEmpty && fraction.isEmpty then none
    else do
      let n ← digitValues? whole
      let f ← digitValues? fraction
      return ⟨Text.digitsValue n, f⟩
  | _ => none

namespace Amount

def isWhole (a : Amount) : Bool := a.fraction.all (· == 0)

/-- How many digits of a fraction count in a calculation. -/
def precision : Nat := 28

/-- A number over a power of ten with at most `precision` digits; a half goes to the even
neighbour. -/
def rounded (n places : Nat) : Nat × Nat :=
  let dropped := (toString n).length - precision
  if dropped = 0 then (n, places)
  else
    let unit := Nat.pow 10 dropped
    let q := n / unit
    let rest := 2 * (n % unit)
    let up := unit < rest || rest == unit && q % 2 == 1
    (if up then q + 1 else q, places - dropped)

/-- The whole part of a sixtyfold fraction: minutes of an hour, seconds of a minute. -/
def sixtieths (a : Amount) : Nat :=
  let (n, places) := rounded (Text.digitsValue a.fraction) a.fraction.length
  let (m, places) := rounded (60 * n) places
  m / Nat.pow 10 places

/-- Sixtieths, when there is a fraction. The fraction of an amount with more than `precision` digits
before the point cannot be taken. -/
def sixtieths? (a : Amount) : Except Failure (Option Nat) :=
  if Nat.pow 10 precision ≤ a.whole then .error .tooLong
  else .ok (if a.isWhole then none else some a.sixtieths)

/-- The fraction in millionths, cut off. -/
def millionths (a : Amount) : Nat :=
  Text.digitsValue ((a.fraction ++ List.replicate 6 0).take 6)

/-- Whether the amount is at most `n`. -/
def atMost (a : Amount) (n : Nat) : Bool := a.whole < n || a.whole == n && a.isWhole

end Amount

namespace Members

def size (m : Members) : Nat := m.values.length

/-- Adds a number that stands for `label`; a second one of a kind is refused. -/
def push (m : Members) (n : Nat) (label : Option Label) : Option Members :=
  let at_ := m.size
  let grown := { m with values := m.values ++ [n] }
  match label with
  | none => some grown
  | some .year => if m.yearAt.isSome then none else some { grown with yearAt := some at_ }
  | some .month => if m.monthAt.isSome then none else some { grown with monthAt := some at_ }
  | some .day => if m.dayAt.isSome then none else some { grown with dayAt := some at_ }

/-- Adds a number that has to be a year. -/
def pushYear (m : Members) (n : Nat) (label : Option Label) : Option Members :=
  if label = none ∨ label = some .year then { m with century := true }.push n (some .year)
  else none

/-- Adds a number as written; with more than two digits it is a year. -/
def pushToken (m : Members) (t : Token) (label : Option Label) : Option Members := do
  let n ← number? t
  if 2 < t.length then m.pushYear n label else m.push n label

/-- Adds the whole part of an amount; above a hundred it is a year. -/
def pushAmount (m : Members) (a : Amount) : Option Members :=
  if a.atMost 100 then m.push a.whole none else m.pushYear a.whole none

/-- Whether an amount can still be the day. -/
def couldBeDay (m : Members) (a : Amount) : Option Bool :=
  let upTo (n : Nat) := decide (1 ≤ a.whole) && a.atMost n
  if m.dayAt.isSome then some false
  else match m.monthAt with
    | none => some (upTo 31)
    | some i => do
      let month ← m.values[i]?
      let year ← match m.yearAt with
        | none => some 2000
        | some j => m.values[j]?
      let days ← monthDays? year month
      return upTo days

/-- Year, month and day, as far as they are known. -/
structure Parts where
  year : Option Nat
  month : Option Nat
  day : Option Nat

/-- The parts when every number has its label, the last one by elimination. -/
def labelled (m : Members) (year month day : Option Nat) : Parts :=
  let pick (i : Option Nat) := i.bind fun i => m.values[i]?
  ⟨pick year, pick month, pick day⟩

/-- The index below three that is missing from a list. -/
def missing (used : List Nat) : Nat := ((List.range 3).find? fun i => !used.contains i).getD 0

/-- Decides which number is which; nothing when there are too many. -/
def resolve (m : Members) : Option Parts :=
  let known := [m.yearAt, m.monthAt, m.dayAt].filterMap id
  if 0 < known.length ∧ m.size = known.length then some (m.labelled m.yearAt m.monthAt m.dayAt)
  else if m.size = 3 ∧ known.length = 2 then
    let rest := some (missing known)
    some (m.labelled (m.yearAt <|> rest) (m.monthAt <|> rest) (m.dayAt <|> rest))
  else match m.values, m.monthAt with
    | [], _ => some ⟨none, none, none⟩
    | [a], none => some (if 31 < a then ⟨some a, none, none⟩ else ⟨none, none, some a⟩)
    | [a], some _ => some ⟨none, some a, none⟩
    | [a, b], some i =>
      let (month, other) := if i = 0 then (a, b) else (b, a)
      some (if 31 < other then ⟨some other, some month, none⟩
        else ⟨none, some month, some other⟩)
    | [a, b], none =>
      some (if 31 < a then ⟨some a, some b, none⟩
        else if 31 < b then ⟨some b, some a, none⟩
        else ⟨none, some a, some b⟩)
    | [a, b, c], some 0 =>
      some (if 31 < b then ⟨some b, some a, some c⟩ else ⟨some c, some a, some b⟩)
    | [a, b, c], some 1 =>
      some (if 31 < a then ⟨some a, some b, some c⟩ else ⟨some c, some b, some a⟩)
    | [a, b, c], some _ =>
      some (if 31 < b then ⟨some b, some c, some a⟩ else ⟨some a, some c, some b⟩)
    | [a, b, c], none =>
      some (if 31 < a ∨ m.yearAt = some 0 then ⟨some a, some b, some c⟩
        else if 12 < a then ⟨some c, some b, some a⟩
        else ⟨some c, some a, some b⟩)
    | _, _ => none

end Members

end DynamicForm.Date
