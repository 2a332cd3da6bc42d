import DynamicForm.Fault
import DynamicForm.Number.Literal
import DynamicForm.Number.Shortest
import DynamicForm.Text.Quoted
import DynamicForm.Value

/-!
# The written form of values

Patterns are matched against the written form of a value, and messages quote it. A text stands for
itself at the top and is quoted inside lists and records.

- `Value.display` is the written form.
- `Value.written` refuses values that hold an integer with more digits than are written out.
-/

namespace DynamicForm.Value

mutual

/-- The written form inside a list or record. -/
def inner : Value → String
  | null => "None"
  | bool b => if b then "True" else "False"
  | int n => toString n
  | float x => x.text
  | text s => Text.quoted s
  | list items => "[" ++ String.intercalate ", " (innerItems items) ++ "]"
  | record entries => "\x7b" ++ String.intercalate ", " (innerEntries entries) ++ "\x7d"

/-- The written forms of the members of a list. -/
def innerItems : List Value → List String
  | [] => []
  | v :: rest => inner v :: innerItems rest

/-- The written forms of the entries of a record. -/
def innerEntries : List (String × Value) → List String
  | [] => []
  | (k, v) :: rest => (Text.quoted k ++ ": " ++ inner v) :: innerEntries rest

end

/-- The written form of a value. -/
def display : Value → String
  | text s => s
  | v => v.inner

mutual

/-- Whether the value is or holds an integer with more digits than are written out. -/
def holdsLongInteger : Value → Bool
  | int n => decide (Literal.digitLimit < Binary64.decimalLength n.natAbs)
  | list items => anyHoldsLongInteger items
  | record entries => anyEntryHoldsLongInteger entries
  | _ => false

def anyHoldsLongInteger : List Value → Bool
  | [] => false
  | v :: rest => holdsLongInteger v || anyHoldsLongInteger rest

def anyEntryHoldsLongInteger : List (String × Value) → Bool
  | [] => false
  | (_, v) :: rest => holdsLongInteger v || anyEntryHoldsLongInteger rest

end

/-- The written form, for values that can be written out. -/
def written (v : Value) : Except Fault String :=
  if v.holdsLongInteger then .error .integerTooLong else .ok v.display

/-- The name of the kind of a value, as messages have it. -/
def kindName : Value → String
  | null => "NoneType"
  | bool _ => "bool"
  | int _ => "int"
  | float _ => "float"
  | text _ => "str"
  | list _ => "list"
  | record _ => "dict"

end DynamicForm.Value
