import DynamicForm.Number.Binary64

/-!
# Debounce timers

A timer waits for a quiet period. Starting it again begins the period anew, so that a burst of
starts leads to a single firing, one period after the last of them. Time is counted in ticks, of
which a millisecond has a million.

- `Timer.start` arms a timer, `Timer.cancel` disarms it, `Timer.fire` is what happens when it is
  due.
- `Timer.starts` counts how often it has been armed, so that the order in which things have been set
  up can be told.
-/

namespace DynamicForm

/-- A timer. -/
structure Timer where
  /-- The quiet period; without one the timer is never due. -/
  delay : Option Nat
  /-- Whether the timer is armed. -/
  pending : Bool := false
  /-- When it is due, if it is armed and ever due. -/
  due : Option Nat := none
  starts : Nat := 0
deriving DecidableEq, Repr

namespace Timer

/-- Begins the quiet period. -/
def start (now : Nat) (t : Timer) : Timer :=
  { t with pending := true, due := t.delay.map (now + ·), starts := t.starts + 1 }

def cancel (t : Timer) : Timer := { t with pending := false, due := none }

/-- Ends the quiet period. -/
def fire (t : Timer) : Timer := t.cancel

/-- Whether the timer is due by a time. -/
def isDue (limit : Nat) (t : Timer) : Bool :=
  match t.due with
  | some d => decide (d ≤ limit)
  | none => false

/-! ## Ticks -/

def ticksPerMillisecond : Nat := 1000000

def ticksPerSecond : Nat := 1000 * ticksPerMillisecond

/-- A period in a unit as ticks. An infinite one never ends; one that is negative or no number ends
at once. -/
def ticksOf (perUnit : Nat) (x : Binary64) : Option Nat :=
  match x with
  | .nan => some 0
  | .infinite negative => if negative then some 0 else none
  | .finite negative units =>
    if negative ∨ units = 0 then some 0
    else some (Nat.max 1 (Binary64.nearest (units * perUnit) Binary64.unitsPerOne))

/-- A period in seconds as ticks. -/
def ofSeconds (x : Binary64) : Option Nat := ticksOf ticksPerSecond x

/-- A time in milliseconds, rounded; a half goes to the even neighbour. -/
def milliseconds (ticks : Nat) : Nat := Binary64.nearest ticks ticksPerMillisecond

/-- Lets time pass; the result has the times at which the timer fires. -/
def advance (limit : Nat) (t : Timer) : List Nat × Timer :=
  match t.due with
  | some d => if d ≤ limit then ([d], t.fire) else ([], t)
  | none => ([], t)

end Timer

end DynamicForm
