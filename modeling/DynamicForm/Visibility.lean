import DynamicForm.Coercion
import DynamicForm.Definition.Basic
import DynamicForm.Text.Case

/-!
# Visibility

Whether a field is shown is a function of the current values alone, so a cycle of conditions does
no harm. A condition on a key without a value is false, and conditions hold together.

- `Condition.holds` tests one condition, `allHold` a list of them.
-/

namespace DynamicForm

/-- Whether the characters occur in a row somewhere. -/
def Text.occursIn (part : List Char) : List Char → Bool
  | [] => part.isEmpty
  | c :: rest => part.isPrefixOf (c :: rest) || Text.occursIn part rest

namespace Condition

/-- Whether a text contains another one, without regard to case. -/
def containsText : Value → Value → Bool
  | .text s, .text part => Text.occursIn (Text.lowerChars part.toList) (Text.lowerChars s.toList)
  | _, _ => false

/-- Whether two values are related as numbers. -/
def compareNumbers (r : Binary64 → Binary64 → Bool) (a b : Value) : Except Fault Bool := do
  let x ← a.toNumber
  let y ← b.toNumber
  return r x y

/-- Compares a value by the operator of the condition. -/
def test (c : Condition) (v : Value) : Except Fault Bool :=
  match c.operator with
  | .equals => v.looseEquals c.value
  | .notEquals => (v.looseEquals c.value).map (!·)
  | .contains => .ok (containsText v c.value)
  | .greaterThan => compareNumbers (fun x y => y.lt x) v c.value
  | .lessThan => compareNumbers Binary64.lt v c.value
  | .isEmpty => .ok v.isEmpty
  | .isNotEmpty => .ok (!v.isEmpty)

/-- Whether the condition holds on the values. -/
def holds (c : Condition) (values : Record) : Except Fault Bool :=
  match values.get? c.fieldKey with
  | none => .ok false
  | some v => c.test v

end Condition

/-- Whether all conditions hold; the first one that does not ends the test. -/
def allHold (values : Record) : List Condition → Except Fault Bool
  | [] => .ok true
  | c :: rest => do
    if ← c.holds values then allHold values rest else return false

/-- Whether a field is shown. -/
def Field.isShown (f : Field) (values : Record) : Except Fault Bool :=
  allHold values f.conditionList

end DynamicForm
