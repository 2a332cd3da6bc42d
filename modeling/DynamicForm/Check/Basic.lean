import DynamicForm.Check.Address
import DynamicForm.Coercion
import DynamicForm.Date.Reader
import DynamicForm.Display
import DynamicForm.Error
import DynamicForm.Pattern.Matcher

/-!
# Checks

A check is one rule that a value passes or fails. Except for the rule that a value is required,
checks let empty values pass, so that a field may be left out.

- `Check.passes` is the verdict on a value. It can meet a fault, as when an integer is too large.
- `failures` runs a list of checks and collects every rule that fails.
-/

namespace DynamicForm

/-- A rule for values. -/
inductive Check where
  /-- There has to be a value. -/
  | required (label : String)
  /-- A box has to be ticked. -/
  | ticked (label : String)
  | email
  | number
  | date
  | option (options : List String)
  /-- At least so many characters or items. An empty text may be exempt. -/
  | minLength (bound : Nat) (skipsEmpty : Bool)
  /-- At most so many characters or items. An empty text may be exempt. -/
  | maxLength (bound : Nat) (skipsEmpty : Bool)
  | min (bound : Binary64)
  | max (bound : Binary64)
  /-- The written form has to match a pattern as a whole. -/
  | pattern (source : String) (compiled : Pattern.Compiled)

namespace Check

/-- The name of the rule. -/
def name : Check → String
  | required _ => "required"
  | ticked _ => "required"
  | email => "email"
  | number => "number"
  | date => "date"
  | option _ => "option"
  | minLength _ _ => "minLength"
  | maxLength _ _ => "maxLength"
  | min _ => "min"
  | max _ => "max"
  | pattern _ _ => "pattern"

/-- A bound as messages show it: whole numbers without a fraction. -/
def boundText (x : Binary64) : String :=
  match x.toInt? with
  | some n => toString n
  | none => x.text

/-- What is said about a value that fails. -/
def message : Check → String
  | required label => label ++ " is required"
  | ticked label => label ++ " is required"
  | email => "Invalid email format"
  | number => "Must be a number"
  | date => "Invalid date"
  | option _ => "Choose one of the available options"
  | minLength n _ => "Minimum " ++ toString n ++ " characters required"
  | maxLength n _ => "Maximum " ++ toString n ++ " characters allowed"
  | min b => "Minimum value is " ++ boundText b
  | max b => "Maximum value is " ++ boundText b
  | pattern _ _ => "Invalid format"

/-- The bound, options or pattern of the rule; null when it has none. -/
def param : Check → Value
  | option options => .list (options.map .text)
  | minLength n _ => .int n
  | maxLength n _ => .int n
  | min b => .float b
  | max b => .float b
  | pattern source _ => .text source
  | _ => .null

/-- Whether a value counts as given. -/
def isGiven : Value → Bool
  | .list items => !items.isEmpty
  | .record entries => !entries.isEmpty
  | v => !v.isEmpty

/-- Whether a value that is not empty is an address. -/
def isEmail : Value → Bool
  | .text s => Address.isAddressLine s
  | _ => false

/-- Whether a value that is not empty is a finite number or spells one. -/
def isNumeric : Value → Except Fault Bool
  | .text s => .ok (Value.textNumber s).isFinite
  | v => v.isNumber

/-- The number of characters or items, for values that have one. -/
def length? : Value → Option Nat
  | .text s => some s.length
  | .list items => some items.length
  | _ => none

/-- Compares the length of a value; values without one pass. -/
def lengthPasses (skipsEmpty : Bool) (accepts : Nat → Bool) (v : Value) : Bool :=
  match length? v with
  | none => true
  | some n => skipsEmpty && v.isEmpty || accepts n

/-- Compares a value as a number; empty values and values that are no number pass. -/
def rangePasses (accepts : Binary64 → Bool) (v : Value) : Except Fault Bool :=
  if v.isEmpty then .ok true
  else v.toNumber.map fun x => x.isNan || accepts x

/-- Whether a value passes. Dates without a year or a month take it from `today`. -/
def passes (today : Date) (c : Check) (v : Value) : Except Fault Bool :=
  match c with
  | required _ => .ok (isGiven v)
  | ticked _ => .ok (v matches .bool true)
  | email => .ok (v.isEmpty || isEmail v)
  | number => if v.isEmpty then .ok true else isNumeric v
  | date => if v.isEmpty then .ok true else (Date.ofValue? today v).map Option.isSome
  | option options => .ok (v.isEmpty || options.any fun o => v.same (.text o))
  | minLength n skipsEmpty => .ok (lengthPasses skipsEmpty (fun k => decide (n ≤ k)) v)
  | maxLength n skipsEmpty => .ok (lengthPasses skipsEmpty (fun k => decide (k ≤ n)) v)
  | min b => rangePasses (fun x => b.le x) v
  | max b => rangePasses (fun x => x.le b) v
  | pattern _ compiled => if v.isEmpty then .ok true else v.written.bind compiled.fullMatch

/-- The report on a value that fails. -/
def failure (c : Check) : Failure := ⟨c.name, c.message, c.param⟩

/-- Every failed rule, in the order of the checks. -/
def failures (today : Date) (v : Value) : List Check → Except Fault (List Failure)
  | [] => .ok []
  | c :: rest => do
    let ok ← c.passes today v
    let more ← failures today v rest
    return if ok then more else c.failure :: more

end Check

end DynamicForm
