import DynamicForm.Definition.Basic
import DynamicForm.Text.Blank

/-!
# Structural problems of a definition

A definition is sound when identities and keys are distinct, keys and labels are not blank, fields
that offer options have some, and every condition names another field of the form and, when its
operator compares, a value.

- `Definition.problems` lists what is wrong: first field by field, then condition by condition.
-/

namespace DynamicForm

/-- Something wrong with the structure of a definition. -/
inductive Problem where
  | duplicateId (id : String)
  /-- A blank key; positions count from one. -/
  | emptyKey (position : Nat)
  | duplicateKey (key : String)
  | emptyLabel (name : String)
  | missingOptions (name : String) (type : FieldType)
  | noTarget (key : String)
  | selfReference (key : String)
  | danglingReference (key target : String)
  | missingValue (key : String) (operator : Operator)
  | missingFormName
  | missingFormKey
deriving DecidableEq, Repr

def Problem.message : Problem → String
  | .duplicateId id => "Duplicate field id: '" ++ id ++ "'"
  | .emptyKey position => "Field #" ++ toString position ++ " has an empty key"
  | .duplicateKey key => "Duplicate field key: '" ++ key ++ "'"
  | .emptyLabel name => "Field '" ++ name ++ "' has an empty label"
  | .missingOptions name type =>
    "Field '" ++ name ++ "' of type '" ++ type.name ++ "' must have options"
  | .noTarget key => "Field '" ++ key ++ "' has a condition without a target field"
  | .selfReference key => "Field '" ++ key ++ "' has a condition referencing itself"
  | .danglingReference key target =>
    "Field '" ++ key ++ "' has a condition referencing non-existent field '" ++ target ++ "'"
  | .missingValue key operator =>
    "Field '" ++ key ++ "' has a '" ++ operator.name ++ "' condition without a value"
  | .missingFormName => "Form name is required"
  | .missingFormKey => "Form key is required"

/-- The problem, when the condition holds. -/
def Problem.when (b : Bool) (p : Problem) : List Problem := if b then [p] else []

namespace Field

/-- The key, or the identity when the key is empty. -/
def nameForMessages (f : Field) : String := if f.key = "" then f.id else f.key

def lacksOptions (f : Field) : Bool := f.type.hasOptions && (f.options.getD []).isEmpty

/-- The problems of the field that stands after `before`. -/
def problems (before : List Field) (f : Field) : List Problem :=
  Problem.when (before.any fun g => g.id == f.id) (.duplicateId f.id) ++
  (if Text.isBlankText f.key then [.emptyKey (before.length + 1)]
    else Problem.when (before.any fun g => g.key == f.key) (.duplicateKey f.key)) ++
  Problem.when (Text.isBlankText f.label) (.emptyLabel f.nameForMessages) ++
  Problem.when f.lacksOptions (.missingOptions f.nameForMessages f.type)

/-- The problems of a condition of the field. -/
def conditionProblems (keys : List String) (f : Field) (c : Condition) : List Problem :=
  if c.fieldKey = "" then [.noTarget f.key]
  else
    (if c.fieldKey = f.key then [.selfReference f.key]
      else Problem.when (!keys.contains c.fieldKey) (.danglingReference f.key c.fieldKey)) ++
    Problem.when (c.needsValue && c.value.isNull) (.missingValue f.key c.operator)

end Field

namespace Definition

/-- The problems of the fields that follow `before`. -/
def fieldProblems : List Field → List Field → List Problem
  | _, [] => []
  | before, f :: rest => f.problems before ++ fieldProblems (before ++ [f]) rest

/-- All structural problems. -/
def problems (d : Definition) : List Problem :=
  fieldProblems [] d.fields ++
    d.fields.flatMap fun f => f.conditionList.flatMap (f.conditionProblems d.fieldKeys)

end Definition

end DynamicForm
