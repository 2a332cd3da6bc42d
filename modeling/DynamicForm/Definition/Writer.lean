import DynamicForm.Definition.Basic
import DynamicForm.Definition.Reader
import DynamicForm.Json.Strict

/-!
# Writing definitions as payloads

Attributes are written under their camel or snake case names, with or without those that are null.
A default that is declared as null is always written. In strict JSON, numbers that are not finite
have no place in free values and in the constraints of a field, and become null there.

A field is written twice: first attribute by attribute, and then all that has been written of it once
more, as a record of free values. The second time every attribute counts against the depth to which
free values are written, and so do the list of the conditions and their records.

- `Definition.payload` is the form in which definitions are stored.
- `Definition.isShallow` tells whether there is one: free values may be too deep to be written.
- `Definition.written?` is what is written in a style. A plain record has no limit to its depth.
-/

namespace DynamicForm

/-- How attributes are written. -/
structure WriteStyle where
  /-- Camel case names rather than snake case. -/
  camel : Bool
  /-- Null attributes are left out. -/
  dropNulls : Bool
  /-- Values are written as strict JSON; otherwise they are kept as they are. -/
  strict : Bool

namespace WriteStyle

/-- The style of stored payloads. -/
def stored : WriteStyle := ⟨true, true, true⟩

/-- Stored payloads with every attribute. -/
def full : WriteStyle := ⟨true, false, true⟩

/-- Payloads under snake case names. -/
def snake : WriteStyle := ⟨false, true, true⟩

/-- Plain records under snake case names, which are not JSON yet. -/
def plain : WriteStyle := ⟨false, true, false⟩

/-- An attribute as an entry of a record. `absent` says that the attribute is null before it is
written. -/
def entry (s : WriteStyle) (a : Read.Attribute) (v : Option Value) : Record :=
  match v with
  | some v => [(if s.camel then a.camel else a.snake, v)]
  | none => if s.dropNulls then [] else [(if s.camel then a.camel else a.snake, .null)]

/-- A free value as it is written. -/
def free (s : WriteStyle) (v : Value) : Value := if s.strict then v.storable else v

end WriteStyle

/-- A free value; null counts as absent. -/
def Value.present : Value → Option Value
  | .null => none
  | v => some v

namespace Condition

def write (s : WriteStyle) (c : Condition) : Value :=
  .record (s.entry fieldKeyNames (some (.text c.fieldKey)) ++
    s.entry (.plain "operator") (some (.text c.operator.name)) ++
    s.entry (.plain "value") (c.value.present.map s.free))

/-- Whether the condition can be written on its own. -/
def isShallow (c : Condition) : Bool := c.value.isShallow

end Condition

namespace Constraints

def write (s : WriteStyle) (c : Constraints) : Value :=
  .record (s.entry minLengthNames (c.minLength.map fun n => .int n) ++
    s.entry maxLengthNames (c.maxLength.map fun n => .int n) ++
    s.entry (.plain "min") (c.min.map .float) ++
    s.entry (.plain "max") (c.max.map .float) ++
    s.entry (.plain "pattern") (c.pattern.map .text))

end Constraints

namespace Field

/-- The default as an attribute: a declared one is written even when it is null. -/
def writtenDefault (s : WriteStyle) (f : Field) : Option Value := f.declaredDefault.map s.free

/-- What is written of the field, attribute by attribute. -/
def entries (s : WriteStyle) (f : Field) : Record :=
  s.entry (.plain "id") (some (.text f.id)) ++
    s.entry (.plain "type") (some (.text f.type.name)) ++
    s.entry (.plain "label") (some (.text f.label)) ++
    s.entry (.plain "key") (some (.text f.key)) ++
    s.entry (.plain "placeholder") (f.placeholder.map .text) ++
    s.entry (.plain "required") (some (.bool f.required)) ++
    s.entry (.plain "disabled") (some (.bool f.disabled)) ++
    s.entry (.plain "options") (f.options.map fun os => .list (os.map .text)) ++
    s.entry defaultNames (f.writtenDefault s) ++
    s.entry (.plain "validation") (f.validation.map fun c => s.free (Constraints.write s c)) ++
    s.entry (.plain "conditions") (f.conditions.map fun cs => .list (cs.map (Condition.write s))) ++
    s.entry (.plain "order") (some (.int f.order))

def write (s : WriteStyle) (f : Field) : Value := .record (f.entries s)

/-- Whether the field can be written as strict JSON: all that has been written of it is written once
more, as free values. -/
def isShallow (f : Field) : Bool := (f.entries .stored).all fun e => e.2.isShallow

end Field

namespace Definition

def write (s : WriteStyle) (d : Definition) : Value :=
  .record (s.entry (.plain "id") (d.id.map FormId.toValue) ++
    s.entry (.plain "name") (some (.text d.name)) ++
    s.entry (.plain "key") (some (.text d.key)) ++
    s.entry (.plain "description") (d.description.map .text) ++
    s.entry (.plain "fields") (some (.list (d.fields.map (Field.write s)))))

/-- Whether the definition can be written as strict JSON. -/
def isShallow (d : Definition) : Bool := d.fields.all Field.isShallow

/-- What is written of a definition, if it can be written in the style. -/
def written? (s : WriteStyle) (d : Definition) : Option Value :=
  if s.strict && !d.isShallow then none else some (d.write s)

/-- The form in which a definition is stored. -/
def payload (d : Definition) : Value := d.write .stored

end Definition

end DynamicForm
