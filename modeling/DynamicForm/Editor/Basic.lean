import DynamicForm.Definition.Problems
import DynamicForm.Definition.Reader
import DynamicForm.Display
import DynamicForm.Editor.Position
import DynamicForm.Notice
import DynamicForm.Subscribers

/-!
# Editors

An editor holds a definition under construction. The metadata may be anything while it is being
edited; it is checked when a definition is taken from the editor. Fields are numbered from zero in
the order in which they stand.

- `Editor.load` starts with a definition, or with an empty one.
- `Editor.snapshot` is the definition as it stands.
- `Editor.problems` lists what is wrong with it.
-/

namespace DynamicForm

/-- A definition under construction. -/
structure Editor where
  /-- The identity in storage, if the form is stored. -/
  formId : Option FormId := none
  name : Value := .text ""
  key : Value := .text ""
  description : Value := .null
  fields : List Field := []
  /-- The number of the field generated last. -/
  counter : Nat := 0
  listeners : Subscribers := {}
  /-- Names of attributes that no edit may assign. -/
  locked : List String := []

/-- Why an edit is refused. -/
inductive EditError where
  | unknownMetadata (names : List String)
  /-- Attributes that the editor manages itself. -/
  | managedAttributes (names : List String)
  | position (e : PositionError)
  | notAFieldType (v : Value)
  | noConditions (key : String)
  /-- A value that cannot be stored. -/
  | unreadable (issues : List Issue)
  /-- A name or key that is neither text nor empty. -/
  | notText (v : Value)
  /-- An attribute that is locked. -/
  | locked (name : String)

namespace EditError

def message : EditError → String
  | unknownMetadata names => "Unknown metadata attribute(s): " ++ Text.quotedList names
  | managedAttributes names => "Cannot change field attribute(s): " ++ Text.quotedList names
  | position e => e.message
  | notAFieldType v => v.inner ++ " is not a valid FieldType"
  | noConditions key => "Field '" ++ key ++ "' has no conditions"
  | unreadable _ => "A value cannot be stored"
  | notText v => "'" ++ v.kindName ++ "' object has no attribute 'strip'"
  | locked name => "Attribute '" ++ name ++ "' cannot be assigned"

end EditError

namespace Editor

/-- Numbers fields in the order in which they stand. -/
def renumber (fields : List Field) : List Field := fields.mapIdx fun i f => { f with order := i }

/-- Starts with a definition, its fields in the order in which they are shown. -/
def load (d : Definition) : Editor where
  formId := d.id
  name := .text d.name
  key := .text d.key
  description := match d.description with
    | some s => .text s
    | none => .null
  fields := renumber d.sortedFields

/-- Whether the form is stored already. -/
def isStored (e : Editor) : Bool := e.formId.isSome

/-! ## Metadata -/

/-- Whether a name or key is missing. Nothing but text can be blank without being empty. -/
def isBlankName (v : Value) : Except EditError Bool :=
  if !v.isTruthy then .ok true
  else match v with
    | .text s => .ok (Text.isBlankText s)
    | _ => .error (.notText v)

/-- Whether there are a name and a key. The key is not looked at when the name is missing. -/
def hasNames (e : Editor) : Except EditError Bool := do
  if ← isBlankName e.name then return false
  return !(← isBlankName e.key)

/-- The problems of the metadata. -/
def nameProblems (e : Editor) : Except EditError (List Problem) := do
  let noName ← isBlankName e.name
  let noKey ← isBlankName e.key
  return Problem.when noName .missingFormName ++ Problem.when noKey .missingFormKey

/-! ## Output -/

/-- The definition as it stands; metadata that is not text is reported. -/
def snapshot (e : Editor) : Checked Definition :=
  Definition.mk e.formId
    <$> (Read.scalar Read.text e.name).under (.key "name")
    <*> (Read.scalar Read.text e.key).under (.key "key")
    <*> (Read.optional (Read.scalar Read.text) e.description).under (.key "description")
    <*> .ok e.fields

/-- Everything that is wrong with the definition as it stands. -/
def problems (e : Editor) : Except EditError (List Problem) := do
  let ofNames ← e.nameProblems
  match e.snapshot with
  | .ok d => return ofNames ++ d.problems
  | .bad issues => throw (.unreadable issues)

/-! ## Looking at fields -/

/-- The place of a field. -/
def findField (e : Editor) (i : Int) : Except EditError Nat :=
  (Position.find .lookup e.fields.length i).mapError .position

/-- The field at a position, with its place. -/
def fieldAt (e : Editor) (i : Int) : Except EditError (Nat × Field) := do
  let n ← e.findField i
  match e.fields[n]? with
  | some f => return (n, f)
  | none => throw (.position .lookup)

/-- The fields that the field at a position can refer to: all but itself. -/
def available (e : Editor) (i : Int) : Except EditError (List Field) := do
  let (_, f) ← e.fieldAt i
  return e.fields.filter fun g => g.id ≠ f.id

/-- Conditions that refer to missing fields: the key of the field that has the condition, and the
key that it refers to. -/
def danglingReferences (e : Editor) : List (String × String) :=
  let keys := e.fields.map (·.key)
  e.fields.flatMap fun f =>
    (f.conditionList.filter fun c => c.fieldKey ≠ "" && !keys.contains c.fieldKey).map fun c =>
      (f.key, c.fieldKey)

end Editor

end DynamicForm
