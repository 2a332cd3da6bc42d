/-!
# Issues with a payload

Reading a payload reports every part that cannot be read, each with the path to it and the cause.
-/

namespace DynamicForm

/-- A step on the way to a part of a payload. -/
inductive PathStep where
  | key (s : String)
  | index (n : Nat)
deriving DecidableEq, Repr

def PathStep.text : PathStep → String
  | .key s => s
  | .index n => toString n

/-- Why a part of a payload cannot be read. -/
inductive Cause where
  | missing
  | notText
  | notBool
  | boolUnreadable
  | notInt
  | intUnreadable
  | intTooLarge
  | intFractional
  | notFinite
  | notNumber
  | numberUnreadable
  | negative
  | notList
  | notRecord
  /-- The part has to be a record that describes `what`. -/
  | notModel (what : String)
  /-- The part has to be one of some names. -/
  | notMember (names : List String)
  | unknownAttribute (name : String)
deriving DecidableEq, Repr

namespace Cause

/-- The short name of the cause. -/
def kind : Cause → String
  | missing => "missing"
  | notText => "string_type"
  | notBool => "bool_type"
  | boolUnreadable => "bool_parsing"
  | notInt => "int_type"
  | intUnreadable => "int_parsing"
  | intTooLarge => "int_parsing_size"
  | intFractional => "int_from_float"
  | notFinite => "finite_number"
  | notNumber => "float_type"
  | numberUnreadable => "float_parsing"
  | negative => "greater_than_equal"
  | notList => "list_type"
  | notRecord => "dict_type"
  | notModel _ => "model_type"
  | notMember _ => "enum"
  | unknownAttribute _ => "no_such_attribute"

/-- Names between quotes, set apart by commas, with "or" before the last. -/
def alternatives (names : List String) : String :=
  let quoted := names.map fun n => "'" ++ n ++ "'"
  match quoted.reverse with
  | [] => ""
  | [only] => only
  | last :: before => String.intercalate ", " before.reverse ++ " or " ++ last

def message : Cause → String
  | missing => "Field required"
  | notText => "Input should be a valid string"
  | notBool => "Input should be a valid boolean"
  | boolUnreadable => "Input should be a valid boolean, unable to interpret input"
  | notInt => "Input should be a valid integer"
  | intUnreadable => "Input should be a valid integer, unable to parse string as an integer"
  | intTooLarge => "Unable to parse input string as an integer, exceeded maximum size"
  | intFractional => "Input should be a valid integer, got a number with a fractional part"
  | notFinite => "Input should be a finite number"
  | notNumber => "Input should be a valid number"
  | numberUnreadable => "Input should be a valid number, unable to parse string as a number"
  | negative => "Input should be greater than or equal to 0"
  | notList => "Input should be a valid list"
  | notRecord => "Input should be a valid dictionary"
  | notModel what => "Input should be a valid dictionary or instance of " ++ what
  | notMember names => "Input should be " ++ alternatives names
  | unknownAttribute name => "Object has no attribute '" ++ name ++ "'"

end Cause

/-- A part of a payload that cannot be read. -/
structure Issue where
  path : List PathStep
  cause : Cause
deriving DecidableEq, Repr

/-- The issue seen from one step further out. -/
def Issue.under (step : PathStep) (i : Issue) : Issue := { i with path := step :: i.path }

/-- How many issues there are with a payload that should describe `what`. -/
def Issue.summary (what : String) (count : Nat) : String :=
  let noun := if count = 1 then " validation error for " else " validation errors for "
  toString count ++ noun ++ what

/-- What comes of reading: a result, or all issues. -/
inductive Checked (α : Type) where
  | ok (a : α)
  | bad (issues : List Issue)

namespace Checked

def fail (c : Cause) : Checked α := .bad [⟨[], c⟩]

/-- Puts all issues under a step. -/
def under (step : PathStep) : Checked α → Checked α
  | ok a => ok a
  | bad issues => bad (issues.map (Issue.under step))

def map (f : α → β) : Checked α → Checked β
  | ok a => ok (f a)
  | bad issues => bad issues

/-- Applies a read function to a read argument; the issues of both are kept, in order. -/
def apply : Checked (α → β) → Checked α → Checked β
  | ok f, ok a => ok (f a)
  | ok _, bad issues => bad issues
  | bad issues, ok _ => bad issues
  | bad first, bad second => bad (first ++ second)

instance : Functor Checked where
  map := map

instance : Applicative Checked where
  pure := ok
  seq f a := apply f (a ())

/-- Reads every member of a list under its position. -/
def each (read : α → Checked β) : Nat → List α → Checked (List β)
  | _, [] => ok []
  | i, a :: rest => List.cons <$> (read a).under (.index i) <*> each read (i + 1) rest

def toExcept : Checked α → Except (List Issue) α
  | ok a => .ok a
  | bad issues => .error issues

def ofExcept : Except Cause α → Checked α
  | .ok a => ok a
  | .error c => fail c

end Checked

end DynamicForm
