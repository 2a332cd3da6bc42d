import DynamicForm.Coercion
import DynamicForm.Definition.Basic
import DynamicForm.Definition.Issue
import DynamicForm.Number.Lenient

/-!
# Reading definitions from payloads

Reading is lenient: numbers and booleans may be spelt as text, a boolean counts as an integer, and
unknown keys are passed over. An attribute is looked up under its camel case name first and then
under its snake case name. All issues are reported, in the order of the attributes.

- `Definition.read`, `Field.read`, `Condition.read` and `Constraints.read` read whole records.
- `Field.assign` and `Condition.assign` read a single attribute by its snake case name.
-/

namespace DynamicForm

namespace Read

/-! ## Scalars -/

def text : Value → Except Cause String
  | .text s => .ok s
  | _ => .error .notText

/-- The words for true and false, in lower case. -/
def boolOfWord? (s : String) : Option Bool :=
  if ["0", "off", "f", "false", "n", "no"].contains s then some false
  else if ["1", "on", "t", "true", "y", "yes"].contains s then some true
  else none

/-- Whether an integer fits a machine word with sign. -/
def isWord (n : Int) : Bool := decide (-9223372036854775808 ≤ n ∧ n < 9223372036854775808)

def boolOfInt (n : Int) : Except Cause Bool :=
  if n = 0 then .ok false else if n = 1 then .ok true else .error .boolUnreadable

/-- A number in place of a boolean; only whole numbers of moderate size are looked at. -/
def boolOfNumber (n : Option Int) : Except Cause Bool :=
  match n with
  | some n => if isWord n then boolOfInt n else .error .notBool
  | none => .error .notBool

def bool : Value → Except Cause Bool
  | .bool b => .ok b
  | .int n => boolOfNumber (some n)
  | .float x => boolOfNumber x.toInt?
  | .text s =>
    match boolOfWord? (String.ofList (s.toList.map Char.toLower)) with
    | some b => .ok b
    | none => .error .boolUnreadable
  | _ => .error .notBool

def int : Value → Except Cause Int
  | .int n => .ok n
  | .bool b => .ok (if b then 1 else 0)
  | .float x =>
    if !x.isFinite then .error .notFinite
    else match x.toInt? with
      | none => .error .intFractional
      | some n => if isWord n then .ok n else .error .intTooLarge
  | .text s =>
    match Lenient.integer s with
    | .ok n => .ok n
    | .error .unreadable => .error .intUnreadable
    | .error .tooLarge => .error .intTooLarge
  | _ => .error .notInt

/-- An integer that is not negative. -/
def natural (v : Value) : Except Cause Nat := do
  let n ← int v
  if n < 0 then .error .negative else .ok n.toNat

def number : Value → Except Cause Binary64
  | .float x => .ok x
  | .bool b => .ok (if b then .one else .zero)
  | .int n =>
    match Binary64.ofInt? n with
    | some x => .ok x
    | none => .error .notNumber
  | .text s =>
    match Lenient.number? s with
    | some x => .ok x
    | none => .error .numberUnreadable
  | _ => .error .notNumber

def fieldType (v : Value) : Except Cause FieldType :=
  match v with
  | .text s =>
    match FieldType.ofName? s with
    | some t => .ok t
    | none => .error (.notMember (FieldType.all.map (·.name)))
  | _ => .error (.notMember (FieldType.all.map (·.name)))

def operator (v : Value) : Except Cause Operator :=
  match v with
  | .text s =>
    match Operator.ofName? s with
    | some o => .ok o
    | none => .error (.notMember (Operator.all.map (·.name)))
  | _ => .error (.notMember (Operator.all.map (·.name)))

/-! ## Combinators -/

/-- A reader of one part. -/
abbrev Reader (α : Type) := Value → Checked α

def scalar (read : Value → Except Cause α) : Reader α := fun v => .ofExcept (read v)

/-- Null stands for nothing. -/
def optional (read : Reader α) : Reader (Option α)
  | .null => .ok none
  | v => (read v).map some

def list (read : Reader α) : Reader (List α)
  | .list xs => Checked.each read 0 xs
  | _ => .fail .notList

/-- Either a number or a text; of anything else both readings are reported as failed. -/
def formId : Reader FormId
  | .text s => .ok (.text s)
  | v =>
    match int v with
    | .ok n => .ok (.number n)
    | .error c => .bad [⟨[.key "int"], c⟩, ⟨[.key "str"], .notText⟩]

/-- The names of an attribute in payloads. -/
structure Attribute where
  camel : String
  snake : String

/-- An attribute whose two names are the same. -/
def Attribute.plain (name : String) : Attribute := ⟨name, name⟩

/-- The value of an attribute, and the name under which it was found. -/
def find? (r : Record) (a : Attribute) : Option (String × Value) :=
  match r.get? a.camel with
  | some v => some (a.camel, v)
  | none => (r.get? a.snake).map fun v => (a.snake, v)

/-- Reads an attribute that may be absent. -/
def given (r : Record) (a : Attribute) (default : α) (read : Reader α) : Checked α :=
  match find? r a with
  | some (name, v) => (read v).under (.key name)
  | none => .ok default

/-- Reads an attribute that has to be there. -/
def needed (r : Record) (a : Attribute) (read : Reader α) : Checked α :=
  match find? r a with
  | some (name, v) => (read v).under (.key name)
  | none => (Checked.fail .missing).under (.key a.camel)

/-- Reads a record that describes `what`. -/
def model (what : String) (read : Record → Checked α) : Reader α
  | .record es => read es
  | _ => .fail (.notModel what)

end Read

/-! ## Records -/

namespace Condition

def fieldKeyNames : Read.Attribute := ⟨"fieldKey", "field_key"⟩

def read : Read.Reader Condition :=
  Read.model "FieldCondition" fun r =>
    Condition.mk
      <$> Read.given r fieldKeyNames "" (Read.scalar Read.text)
      <*> Read.given r (.plain "operator") .equals (Read.scalar Read.operator)
      <*> Read.given r (.plain "value") .null .ok

end Condition

namespace Constraints

def minLengthNames : Read.Attribute := ⟨"minLength", "min_length"⟩

def maxLengthNames : Read.Attribute := ⟨"maxLength", "max_length"⟩

def read : Read.Reader Constraints :=
  Read.model "ValidationRule" fun r =>
    Constraints.mk
      <$> Read.given r minLengthNames none (Read.optional (Read.scalar Read.natural))
      <*> Read.given r maxLengthNames none (Read.optional (Read.scalar Read.natural))
      <*> Read.given r (.plain "min") none (Read.optional (Read.scalar Read.number))
      <*> Read.given r (.plain "max") none (Read.optional (Read.scalar Read.number))
      <*> Read.given r (.plain "pattern") none (Read.optional (Read.scalar Read.text))

end Constraints

namespace Field

def defaultNames : Read.Attribute := ⟨"defaultValue", "default_value"⟩

def read : Read.Reader Field :=
  Read.model "FormField" fun r =>
    Field.mk
      <$> Read.needed r (.plain "id") (Read.scalar Read.text)
      <*> Read.needed r (.plain "type") (Read.scalar Read.fieldType)
      <*> Read.given r (.plain "label") "" (Read.scalar Read.text)
      <*> Read.given r (.plain "key") "" (Read.scalar Read.text)
      <*> Read.given r (.plain "placeholder") none (Read.optional (Read.scalar Read.text))
      <*> Read.given r (.plain "required") false (Read.scalar Read.bool)
      <*> Read.given r (.plain "disabled") false (Read.scalar Read.bool)
      <*> Read.given r (.plain "options") none
        (Read.optional (Read.list (Read.scalar Read.text)))
      <*> Read.given r defaultNames none (fun v => .ok (some v))
      <*> Read.given r (.plain "validation") none (Read.optional Constraints.read)
      <*> Read.given r (.plain "conditions") none (Read.optional (Read.list Condition.read))
      <*> Read.given r (.plain "order") 0 (Read.scalar Read.natural)

end Field

namespace Definition

def read : Read.Reader Definition :=
  Read.model "FormDefinition" fun r =>
    Definition.mk
      <$> Read.given r (.plain "id") none (Read.optional Read.formId)
      <*> Read.given r (.plain "name") "" (Read.scalar Read.text)
      <*> Read.given r (.plain "key") "" (Read.scalar Read.text)
      <*> Read.given r (.plain "description") none (Read.optional (Read.scalar Read.text))
      <*> Read.given r (.plain "fields") [] (Read.list Field.read)

end Definition

/-! ## Single attributes -/

/-- Reads the value of an attribute under its name and stores it. -/
def Read.assigned (name : String) (read : Read.Reader β) (v : Value) (store : β → α) : Checked α :=
  ((read v).map store).under (.key name)

/-- An attribute that a record does not have. Names that begin with an underscore are private and of
no consequence. -/
def Read.unknown (name : String) (unchanged : α) : Checked α :=
  if name.toList.head? = some '_' then .ok unchanged
  else (Checked.fail (.unknownAttribute name)).under (.key name)

/-- Changes one attribute, given by its snake case name. -/
def Condition.assign (c : Condition) (name : String) (v : Value) : Checked Condition :=
  match name with
  | "field_key" => Read.assigned name (Read.scalar Read.text) v fun s => { c with fieldKey := s }
  | "operator" => Read.assigned name (Read.scalar Read.operator) v fun o => { c with operator := o }
  | "value" => .ok { c with value := v }
  | _ => Read.unknown name c

/-- Changes one attribute, given by its snake case name. -/
def Field.assign (f : Field) (name : String) (v : Value) : Checked Field :=
  match name with
  | "id" => Read.assigned name (Read.scalar Read.text) v fun s => { f with id := s }
  | "type" => Read.assigned name (Read.scalar Read.fieldType) v fun t => { f with type := t }
  | "label" => Read.assigned name (Read.scalar Read.text) v fun s => { f with label := s }
  | "key" => Read.assigned name (Read.scalar Read.text) v fun s => { f with key := s }
  | "placeholder" =>
    Read.assigned name (Read.optional (Read.scalar Read.text)) v fun s =>
      { f with placeholder := s }
  | "required" => Read.assigned name (Read.scalar Read.bool) v fun b => { f with required := b }
  | "disabled" => Read.assigned name (Read.scalar Read.bool) v fun b => { f with disabled := b }
  | "options" =>
    Read.assigned name (Read.optional (Read.list (Read.scalar Read.text))) v fun o =>
      { f with options := o }
  | "default_value" => .ok { f with declaredDefault := some v }
  | "validation" =>
    Read.assigned name (Read.optional Constraints.read) v fun c => { f with validation := c }
  | "conditions" =>
    Read.assigned name (Read.optional (Read.list Condition.read)) v fun cs =>
      { f with conditions := cs }
  | "order" => Read.assigned name (Read.scalar Read.natural) v fun n => { f with order := n }
  | _ => Read.unknown name f

/-- Changes one attribute, given by its name. -/
def Definition.assign (d : Definition) (name : String) (v : Value) : Checked Definition :=
  match name with
  | "id" => Read.assigned name (Read.optional Read.formId) v fun id => { d with id := id }
  | "name" => Read.assigned name (Read.scalar Read.text) v fun s => { d with name := s }
  | "key" => Read.assigned name (Read.scalar Read.text) v fun s => { d with key := s }
  | "description" =>
    Read.assigned name (Read.optional (Read.scalar Read.text)) v fun s =>
      { d with description := s }
  | "fields" => Read.assigned name (Read.list Field.read) v fun fs => { d with fields := fs }
  | _ => Read.unknown name d

end DynamicForm
