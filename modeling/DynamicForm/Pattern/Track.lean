import DynamicForm.Pattern.Node

/-!
# The track of a match

Matching goes back and forth over the text. What outlives an attempt that fails is its track: where
the reading head was left, and the marks at which groups began and ended. Giving an attempt up
takes back the marks that were added, and inside a repetition also those that were moved.

- `Marks.span?` is what a group has matched.
-/

namespace DynamicForm.Pattern

/-- The places where groups began and ended, by turns, as far as the last group marked. -/
abbrev Marks := Array (Option Nat)

namespace Marks

/-- Sets a mark. Marks that are passed over are unset. -/
def set (m : Marks) (i position : Nat) : Marks :=
  if i < m.size then m.setIfInBounds i (some position)
  else (m ++ Array.replicate (i - m.size) none).push (some position)

/-- The mark where a group begins. Groups are counted from one. -/
def startOf (number : Nat) : Nat := 2 * (number - 1)

/-- The mark where a group ends. -/
def endOf (number : Nat) : Nat := 2 * (number - 1) + 1

/-- Start and end of a group that has matched. -/
def span? (m : Marks) (number : Nat) : Option (Nat × Nat) :=
  match m[startOf number]?.join, m[endOf number]?.join with
  | some a, some b => if a ≤ b then some (a, b) else none
  | _, _ => none

/-- Whether some group ends before it begins. -/
def isReversed (m : Marks) : Bool :=
  (List.range ((m.size + 1) / 2)).any fun i =>
    match m[2 * i]?.join, m[2 * i + 1]?.join with
    | some a, some b => decide (b < a)
    | _, _ => false

/-- The marks after an attempt is given up: those before it, or, unless `whole`, those now as far
as they reached before. -/
def giveUp (whole : Bool) (before now : Marks) : Marks :=
  if whole then before else now.take before.size

end Marks

/-- Where the reading head was left, and the marks. -/
structure Track where
  head : Nat := 0
  marks : Marks := #[]

/-- How an attempt ends. -/
inductive Outcome where
  | matched (t : Track)
  | failed (t : Track)

/-- Tries the rest of a match at a position. -/
abbrev Rest := Track → Nat → Outcome

/-- A way to match from a position, with what follows. -/
abbrev Step := Track → Nat → Rest → Outcome

/-- The end of a part that is matched once and for all. -/
def arrive : Rest := fun t position => .matched { t with head := position }

/-- The outcome with the head moved back when it is a failure. -/
def Outcome.orBackTo (position : Nat) : Outcome → Outcome
  | matched t => matched t
  | failed t => failed { t with head := position }

end DynamicForm.Pattern
