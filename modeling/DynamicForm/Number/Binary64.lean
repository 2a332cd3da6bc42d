/-!
# Binary64 numbers

A finite number is kept as a count of the least positive number, `2⁻¹⁰⁷⁴`, and a sign. Every
binary64 number is such a count, so comparison is comparison of integers and rounding is rounding
of a quotient of naturals.

- `Binary64.roundUnits` rounds a quotient to the nearest representable count, ties to even.
- `Binary64.ofInt?` and `Binary64.ofDecimal` read integers and decimal literals.
- `Binary64.lt`, `Binary64.le` and `Binary64.same` compare; a NaN is in no relation, not even to
  itself.
-/

namespace DynamicForm

/-- A binary64 number. -/
inductive Binary64 where
  /-- The value that is not a number. -/
  | nan
  /-- Infinity with its sign. -/
  | infinite (negative : Bool)
  /-- `units` times `2⁻¹⁰⁷⁴`, with its sign (zero has one too). -/
  | finite (negative : Bool) (units : Nat)
deriving DecidableEq, Repr

namespace Binary64

/-- How many units make one. -/
def unitsPerOne : Nat := Nat.pow 2 1074

/-- The first count of units that is too large for a finite number. -/
def unitsLimit : Nat := Nat.pow 2 2098

/-- The integer nearest to a quotient; a half goes to the even neighbour. -/
def nearest (num den : Nat) : Nat :=
  let q := num / den
  let twice := 2 * (num % den)
  if twice < den then q else if den < twice then q + 1 else q + q % 2

/-- The distance between representable counts at this magnitude: 53 significant bits are kept. -/
def spacing (units : Nat) : Nat := Nat.pow 2 (units.log2 - 52)

/-- The representable count nearest to a quotient. -/
def roundUnits (num den : Nat) : Nat :=
  let step := spacing (num / den)
  step * nearest num (den * step)

/-- The finite number with this many units, or infinity when there are too many. -/
def ofUnits (negative : Bool) (units : Nat) : Binary64 :=
  if units < unitsLimit then .finite negative units else .infinite negative

def zero : Binary64 := .finite false 0

def one : Binary64 := .finite false unitsPerOne

/-- The nearest number, or nothing when the integer is beyond every finite number. -/
def ofInt? (n : Int) : Option Binary64 :=
  let units := roundUnits (n.natAbs * unitsPerOne) 1
  if units < unitsLimit then some (.finite (decide (n < 0)) units) else none

/-- The number nearest to `digits · 10 ^ exponent`. Exponents far outside the range are settled
without computing the power. -/
def ofDecimal (negative : Bool) (digits : Nat) (exponent : Int) : Binary64 :=
  if digits = 0 then .finite negative 0
  else
    let length := (toString digits).length
    if exponent + length > 400 then .infinite negative
    else if exponent + length < -400 then .finite negative 0
    else if 0 ≤ exponent then
      ofUnits negative (roundUnits (digits * Nat.pow 10 exponent.toNat * unitsPerOne) 1)
    else ofUnits negative (roundUnits (digits * unitsPerOne) (Nat.pow 10 (-exponent).toNat))

/-- The position of a number in the order; infinity lies beyond every finite count. -/
def rank? : Binary64 → Option Int
  | nan => none
  | infinite negative => some (if negative then -(unitsLimit : Int) else unitsLimit)
  | finite negative units => some (if negative then -(units : Int) else units)

/-- A relation between two numbers through their ranks. -/
def compareWith (r : Int → Int → Bool) (x y : Binary64) : Bool :=
  match x.rank?, y.rank? with
  | some a, some b => r a b
  | _, _ => false

def lt (x y : Binary64) : Bool := compareWith (fun a b => decide (a < b)) x y

def le (x y : Binary64) : Bool := compareWith (fun a b => decide (a ≤ b)) x y

/-- Numeric equality: `0.0` is `-0.0`, and a NaN is equal to nothing. -/
def same (x y : Binary64) : Bool := compareWith (fun a b => decide (a = b)) x y

def isNan : Binary64 → Bool
  | nan => true
  | _ => false

def isFinite : Binary64 → Bool
  | finite _ _ => true
  | _ => false

/-- The integer that a finite number is, when it is one. -/
def toInt? : Binary64 → Option Int
  | finite negative units =>
    if units % unitsPerOne = 0 then
      let n := units / unitsPerOne
      some (if negative then -(n : Int) else n)
    else none
  | _ => none

/-- Exact comparison with an integer, without rounding it first. -/
def sameInt (x : Binary64) (n : Int) : Bool :=
  match x with
  | finite _ _ => x.rank? == some (n * unitsPerOne)
  | _ => false

end Binary64

end DynamicForm
