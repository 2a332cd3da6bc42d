import DynamicForm.Definition.Issue
import DynamicForm.Definition.Problems

/-!
# Errors of the form engine

Conditions that refer to missing fields are no error: they are false. What remains are structural
problems where a sound definition is asked for, unknown keys, failed checks on submission, and
failures of storage.
-/

namespace DynamicForm

/-- A rule that a value fails. -/
structure Failure where
  rule : String
  message : String
  /-- The bound, options or pattern of the rule. -/
  param : Value := .null

/-- An error that the engine reports to its callers. -/
inductive Error where
  /-- A definition has structural problems. -/
  | schema (problems : List String)
  /-- No field has the key. -/
  | unknownField (key : String)
  /-- Visible fields fail their checks. -/
  | invalid (failures : List (String × List Failure))
  /-- Saving or loading failed, perhaps with a status. -/
  | persistence (message : String) (status : Option Int)
  /-- The remote validation of definitions cannot be reached. -/
  | unavailable (message : String) (status : Option Int)

namespace Error

def message : Error → String
  | schema [] => "Invalid form definition"
  | schema problems =>
    let joined := String.intercalate "; " problems
    if joined = "" then "Invalid form definition" else joined
  | unknownField key => "Field '" ++ key ++ "' does not exist in the form"
  | invalid failures => "Form has invalid fields: " ++ String.intercalate ", " (failures.map (·.1))
  | persistence message _ => message
  | unavailable message _ => message

/-- The unavailability of remote validation is a failure of storage too. -/
def isPersistence : Error → Bool
  | persistence _ _ => true
  | unavailable _ _ => true
  | _ => false

/-- Whether the caller passed a value that makes no sense. -/
def isBadValue : Error → Bool
  | unknownField _ => true
  | _ => false

end Error

/-- How a service fails that the library calls. -/
inductive ServiceFailure where
  | error (e : Error)
  /-- It answers with a value of another kind where a definition is needed. -/
  | notDefinition (kind : String)
  /-- What it is to give back is no definition. -/
  | unreadable (issues : List Issue)
  /-- In a way that the library does not know. -/
  | foreign (kind message : String)

def ServiceFailure.message : ServiceFailure → String
  | error e => e.message
  | notDefinition kind => "'" ++ kind ++ "' object has no attribute 'id'"
  | unreadable issues => Issue.summary "FormDefinition" issues.length
  | foreign _ message => message

/-- Refuses a definition with structural problems. -/
def Definition.check (d : Definition) : Except Error Unit :=
  match d.problems with
  | [] => .ok ()
  | problems => .error (.schema (problems.map Problem.message))

end DynamicForm
