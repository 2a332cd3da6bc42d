import DynamicForm.Check.Basic
import DynamicForm.Notice

/-!
# The checks of a field

A field's constraints become checks in a fixed order: required, the kind's own check, lengths,
bounds, pattern. Constraints that do not suit the kind are left out.

- `Field.plainChecks` are the checks apart from the pattern, `Field.checks` are all.
- A pattern that cannot be read is no constraint; `Field.ignoredPattern` is the notice about it.
-/

namespace DynamicForm.Field

/-- What messages call the field. -/
def caption (f : Field) : String := if f.label = "" then f.key else f.label

/-- The check that there is a value. -/
def requiredCheck (f : Field) : Check :=
  match f.type with
  | .checkbox => .ticked f.caption
  | _ => .required f.caption

/-- The checks that every field of a kind has. -/
def kindChecks (f : Field) : List Check :=
  match f.type with
  | .email => [.email]
  | .number => [.number]
  | .date => [.date]
  | .select | .radio =>
    match f.options.getD [] with
    | [] => []
    | options => [.option options]
  | _ => []

/-- The constraints, with none declared when there are none. -/
def constraints (f : Field) : Constraints := f.validation.getD {}

/-- The checks of the length. For a required field they test an empty text too, so that both rules
are reported. -/
def lengthChecks (f : Field) : List Check :=
  if f.type.isTextual then
    (f.constraints.minLength.map fun n => Check.minLength n !f.required).toList ++
      (f.constraints.maxLength.map fun n => Check.maxLength n !f.required).toList
  else []

/-- The checks of the bounds. -/
def boundChecks (f : Field) : List Check :=
  if f.type = .number then
    (f.constraints.min.map Check.min).toList ++ (f.constraints.max.map Check.max).toList
  else []

/-- The pattern that values have to match; an empty one is none. -/
def pattern? (f : Field) : Option String :=
  if f.type.hasPattern then f.constraints.pattern.filter (· ≠ "") else none

/-- The checks apart from the pattern. -/
def plainChecks (f : Field) : List Check :=
  (if f.required then [f.requiredCheck] else []) ++ f.kindChecks ++ f.lengthChecks ++ f.boundChecks

/-- The check of the pattern, if there is one that can be read. -/
def patternCheck? (f : Field) : Except Fault (Option Check) :=
  match f.pattern? with
  | none => .ok none
  | some source =>
    match Pattern.compile source with
    | .ok node => .ok (some (.pattern source node))
    | .error .malformed => .ok none
    | .error (.fault e) => .error e

/-- All checks in order. -/
def checks (f : Field) : Except Fault (List Check) :=
  f.patternCheck?.map fun c => f.plainChecks ++ c.toList

/-- The notice about a pattern that cannot be read. -/
def ignoredPattern (f : Field) : Option Notice :=
  match f.pattern?.map Pattern.compile with
  | some (.error .malformed) =>
    some (.warning ("Ignoring invalid pattern on field '" ++ f.key ++ "'"))
  | _ => none

end DynamicForm.Field
