/-!
# Positions in a list

Positions count from zero, or from the end when they are negative: the last member is at `-1`.

- `place?` is the place that a position denotes in a list of a given length.
- `clamp` brings a position into the range of a list that is not empty.
-/

namespace DynamicForm

/-- Why a position denotes no member. -/
inductive PositionError where
  /-- There is no such member to look at. -/
  | lookup
  /-- There is no such member to take out. -/
  | removal
  /-- There is nothing to take out. -/
  | emptyRemoval
  /-- There is no such member to delete. -/
  | deletion
  /-- The position is no machine integer. -/
  | tooFar
  /-- The position of a member to take out is no machine integer. -/
  | removalTooFar
deriving DecidableEq, Repr

namespace PositionError

def message : PositionError → String
  | lookup => "list index out of range"
  | removal => "pop index out of range"
  | emptyRemoval => "pop from empty list"
  | deletion => "list assignment index out of range"
  | tooFar => "cannot fit 'int' into an index-sized integer"
  | removalTooFar => "position out of reach"

end PositionError

namespace Position

/-- Whether a position is a machine integer. -/
def isMachineInt (i : Int) : Bool := decide (-9223372036854775808 ≤ i ∧ i < 9223372036854775808)

/-- The place that a position denotes in a list of this length. -/
def place? (length : Nat) (i : Int) : Option Nat :=
  let j := if i < 0 then i + length else i
  if 0 ≤ j ∧ j < length then some j.toNat else none

/-- The place of a member, or the error that there is none. -/
def find (missing : PositionError) (length : Nat) (i : Int) : Except PositionError Nat :=
  if !isMachineInt i then .error .tooFar
  else match place? length i with
    | some n => .ok n
    | none => .error missing

/-- The place of a member to take out. -/
def findRemoval (length : Nat) (i : Int) : Except PositionError Nat :=
  if !isMachineInt i then .error .removalTooFar
  else if length = 0 then .error .emptyRemoval
  else find .removal length i

/-- The nearest place to a position in a list whose last place is `last`. -/
def clamp (last : Nat) (i : Int) : Nat := min i.toNat last

end Position

end DynamicForm
