import DynamicForm.Value

/-!
# Form definitions

A definition holds the metadata of a form and its fields; a field holds its constraints and the
conditions under which it is shown. Definitions may have structural problems (duplicate keys,
references to fields that do not exist): they can still be read, edited and filled in.

- `Definition.sortedFields` lists the fields in the order in which they are shown.
- `Field.initialValue` is the value a field starts with.
-/

namespace DynamicForm

/-- The kinds of fields. -/
inductive FieldType where
  | text
  | number
  | email
  | date
  | select
  | checkbox
  | textarea
  | radio
deriving DecidableEq, Repr

namespace FieldType

def all : List FieldType := [text, number, email, date, select, checkbox, textarea, radio]

/-- The name by which definitions refer to the kind. -/
def name : FieldType → String
  | text => "text"
  | number => "number"
  | email => "email"
  | date => "date"
  | select => "select"
  | checkbox => "checkbox"
  | textarea => "textarea"
  | radio => "radio"

/-- The name at the head of a label. -/
def title : FieldType → String
  | text => "Text"
  | number => "Number"
  | email => "Email"
  | date => "Date"
  | select => "Select"
  | checkbox => "Checkbox"
  | textarea => "Textarea"
  | radio => "Radio"

def ofName? (s : String) : Option FieldType := all.find? fun t => t.name == s

/-- Kinds whose values are plain text. -/
def isTextual : FieldType → Bool
  | text => true
  | email => true
  | textarea => true
  | _ => false

/-- Kinds whose values come from a list of options. -/
def hasOptions : FieldType → Bool
  | select => true
  | radio => true
  | _ => false

/-- Kinds to which a pattern applies. -/
def hasPattern (t : FieldType) : Bool := t.isTextual || t == number

end FieldType

/-- How a condition compares. -/
inductive Operator where
  | equals
  | notEquals
  | contains
  | greaterThan
  | lessThan
  | isEmpty
  | isNotEmpty
deriving DecidableEq, Repr

namespace Operator

def all : List Operator :=
  [equals, notEquals, contains, greaterThan, lessThan, isEmpty, isNotEmpty]

def name : Operator → String
  | equals => "equals"
  | notEquals => "notEquals"
  | contains => "contains"
  | greaterThan => "greaterThan"
  | lessThan => "lessThan"
  | isEmpty => "isEmpty"
  | isNotEmpty => "isNotEmpty"

def ofName? (s : String) : Option Operator := all.find? fun o => o.name == s

/-- Whether the operator compares with a value. -/
def needsValue : Operator → Bool
  | isEmpty => false
  | isNotEmpty => false
  | _ => true

end Operator

/-- A predicate over the value of another field. -/
structure Condition where
  /-- The key of the field whose value is tested. -/
  fieldKey : String := ""
  operator : Operator := .equals
  /-- What the value is compared with; null when nothing is given. -/
  value : Value := .null

def Condition.needsValue (c : Condition) : Bool := c.operator.needsValue

/-- Optional bounds on a value; only those that suit the kind of the field are checked. -/
structure Constraints where
  minLength : Option Nat := none
  maxLength : Option Nat := none
  min : Option Binary64 := none
  max : Option Binary64 := none
  pattern : Option String := none

/-- A field of a form. -/
structure Field where
  /-- The identity of the field, which no edit changes. -/
  id : String
  type : FieldType
  label : String := ""
  /-- The name under which the value is stored and referred to. -/
  key : String := ""
  placeholder : Option String := none
  required : Bool := false
  disabled : Bool := false
  options : Option (List String) := none
  /-- The default value, if one has been declared; a declared one may be null. -/
  declaredDefault : Option Value := none
  validation : Option Constraints := none
  conditions : Option (List Condition) := none
  order : Nat := 0

namespace Field

/-- The conditions that all have to hold for the field to be shown. -/
def conditionList (f : Field) : List Condition := f.conditions.getD []

def hasConditions (f : Field) : Bool := !f.conditionList.isEmpty

def hasDefault (f : Field) : Bool := f.declaredDefault.isSome

/-- The value that a field starts with: the declared default, or the empty value of its kind. -/
def initialValue (f : Field) : Value :=
  match f.declaredDefault with
  | some v => v
  | none =>
    match f.type with
    | .checkbox => .bool false
    | .number => .null
    | _ => .text ""

end Field

/-- The identity of a stored form: a number or a text. -/
inductive FormId where
  | number (n : Int)
  | text (s : String)
deriving DecidableEq, Repr

namespace FormId

def display : FormId → String
  | number n => toString n
  | text s => s

def toValue : FormId → Value
  | number n => .int n
  | text s => .text s

end FormId

/-- A form: its metadata and its fields. -/
structure Definition where
  id : Option FormId := none
  name : String := ""
  key : String := ""
  description : Option String := none
  fields : List Field := []

namespace Definition

/-- The fields in ascending `order`; those of one number keep their places. -/
def sortedFields (d : Definition) : List Field :=
  d.fields.mergeSort fun a b => decide (a.order ≤ b.order)

def fieldKeys (d : Definition) : List String := d.fields.map (·.key)

/-- The first field with the key. -/
def getField? (d : Definition) (key : String) : Option Field := d.fields.find? fun f => f.key == key

end Definition

end DynamicForm
