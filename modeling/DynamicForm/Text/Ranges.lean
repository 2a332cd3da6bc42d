/-!
# Sets of characters as ranges

A set of code points is a sorted list of ranges, both ends included. Membership stops at the first
range that begins beyond the code point.
-/

namespace DynamicForm.Text

/-- Ranges of code points in increasing order. -/
abbrev Ranges := List (Nat × Nat)

/-- Whether a code point lies in one of the ranges. -/
def Ranges.contains : Ranges → Nat → Bool
  | [], _ => false
  | (first, last) :: rest, n =>
    if n < first then false else if n ≤ last then true else Ranges.contains rest n

/-- The first code point of the range that holds `n`. -/
def Ranges.start? : Ranges → Nat → Option Nat
  | [], _ => none
  | (first, last) :: rest, n =>
    if n < first then none else if n ≤ last then some first else Ranges.start? rest n

end DynamicForm.Text
