import DynamicForm.Fault
import DynamicForm.Number.Literal
import DynamicForm.Value

/-!
# Coercion of values

Values are compared across types by a few fixed rules.

- `Value.toNumber`: null and blank text count as zero, booleans as one and zero, numeric text as
  its number; anything else is not a number.
- `Value.looseEquals`: null equals only null, two texts compare exactly, a number and a text
  compare as numbers, and other values compare by contents.
-/

namespace DynamicForm

namespace Value

/-- The nearest number, or a fault when there is none. -/
def roundInt (n : Int) : Except Fault Binary64 :=
  (Binary64.ofInt? n).elim (.error .integerTooLarge) .ok

/-- The number that a text counts as. -/
def textNumber (s : String) : Binary64 :=
  if Text.isBlankText s then .zero
  else (readNumber (Text.trim s)).getD .nan

/-- The number that a value counts as. -/
def toNumber : Value → Except Fault Binary64
  | null => .ok .zero
  | bool b => .ok (if b then .one else .zero)
  | int n => roundInt n
  | float x => .ok x
  | text s => .ok (textNumber s)
  | list _ => .ok .nan
  | record _ => .ok .nan

/-- A finite number other than a boolean. -/
def isNumber : Value → Except Fault Bool
  | int n => (roundInt n).map fun _ => true
  | float x => .ok x.isFinite
  | _ => .ok false

/-- Numbers and texts, the values that compare as numbers with each other. -/
def isScalar : Value → Bool
  | int _ => true
  | float _ => true
  | text _ => true
  | _ => false

/-- Whether two values compare equal as numbers. -/
def sameNumber (a b : Value) : Except Fault Bool := do
  let x ← a.toNumber
  let y ← b.toNumber
  return x.same y

/-- Equality of two values that are neither null nor boolean. -/
def looseEqualsPlain : Value → Value → Except Fault Bool
  | text s, text t => .ok (decide (s = t))
  | a, b => if a.isScalar && b.isScalar then sameNumber a b else .ok (same a b)

/-- A boolean as the binary64 number it counts as; other values are unchanged. -/
def boolAsFloat : Value → Value
  | bool b => .float (if b then .one else .zero)
  | v => v

/-- Equality across types. -/
def looseEquals (a b : Value) : Except Fault Bool :=
  if a.isNull || b.isNull then .ok (a.isNull && b.isNull)
  else looseEqualsPlain a.boolAsFloat b.boolAsFloat

end Value

end DynamicForm
