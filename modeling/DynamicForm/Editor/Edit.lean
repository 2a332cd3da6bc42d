import DynamicForm.Editor.Basic
import DynamicForm.Slug

/-!
# Edits

Every edit that succeeds calls the listeners once, after the change. An edit that is refused calls
nobody; what it had already changed of a field stays changed.

- `Edit` is what an edit leaves behind.
- `Editor.addField` makes up an identity and a key that are free.
- `Editor.reorderField` moves a field and leaves the others in their order.
-/

namespace DynamicForm

/-- What has been edited. -/
inductive Reason where
  | metadata
  | addField
  | deleteField
  | reorderField
  | updateField
  | addCondition
  | removeCondition
  | updateCondition
deriving DecidableEq, Repr

namespace Reason

def name : Reason → String
  | metadata => "metadata"
  | addField => "add_field"
  | deleteField => "delete_field"
  | reorderField => "reorder_field"
  | updateField => "update_field"
  | addCondition => "add_condition"
  | removeCondition => "remove_condition"
  | updateCondition => "update_condition"

end Reason

/-- A call of a listener: its ticket, and what has been edited. -/
structure EditCall where
  ticket : Nat
  reason : Reason
deriving DecidableEq, Repr

/-- What an edit leaves behind. -/
structure Edit (α : Type) where
  editor : Editor
  result : Except EditError α
  notices : List Notice := []
  calls : List EditCall := []

namespace Edit

/-- An edit that changes nothing. -/
def refused (e : Editor) (error : EditError) : Edit α := { editor := e, result := .error error }

/-- Goes on with what has been found, or refuses the edit. -/
def with? (e : Editor) (found : Except EditError β) (next : β → Edit α) : Edit α :=
  match found with
  | .ok b => next b
  | .error error => refused e error

def map (f : α → β) (edit : Edit α) : Edit β := { edit with result := edit.result.map f }

end Edit

namespace Editor

/-- Ends an edit: calls the listeners. -/
def changed (e : Editor) (reason : Reason) (result : α) (notices : List Notice) : Edit α :=
  let (tickets, listeners) := e.listeners.notify
  { editor := { e with listeners := listeners }
    result := .ok result
    notices := notices
    calls := tickets.map fun t => ⟨t, reason⟩ }

/-! ## Metadata -/

def metadataNames : List String := ["name", "key", "description"]

/-- Changes one attribute of the metadata. -/
def assignMetadata (e : Editor) (name : String) (v : Value) : Editor :=
  match name with
  | "name" => { e with name := v }
  | "key" => { e with key := v }
  | "description" => { e with description := v }
  | _ => e

/-- Names in alphabetical order. -/
def sortNames (names : List String) : List String := names.mergeSort fun a b => decide (a ≤ b)

/-- Changes the metadata to any values. -/
def updateMetadata (e : Editor) (changes : Record) : Edit Unit :=
  match changes.keys.filter fun k => !metadataNames.contains k with
  | [] => (changes.foldl (fun e c => e.assignMetadata c.1 c.2) e).changed .metadata () []
  | unknown => .refused e (.unknownMetadata (sortNames unknown))

/-! ## Fields -/

/-- The identity of a generated field. -/
def generatedId (n : Nat) : String := "field_" ++ toString n

/-- The key of a generated field. -/
def generatedKey (t : FieldType) (n : Nat) : String := t.name ++ "_" ++ toString n

/-- Whether a number would give an identity or a key that is in use. -/
def isTaken (e : Editor) (t : FieldType) (n : Nat) : Bool :=
  e.fields.any fun f => f.id == generatedId n || f.key == generatedKey t n

/-- The first number from `n` on that is not taken, among the next `tries`. -/
def firstFree (taken : Nat → Bool) : Nat → Nat → Nat
  | 0, n => n
  | tries + 1, n => if taken n then firstFree taken tries (n + 1) else n

/-- The number of the next field. Every field takes at most two numbers, one by its identity and
one by its key. -/
def nextNumber (e : Editor) (t : FieldType) : Nat :=
  firstFree (e.isTaken t) (2 * e.fields.length) (e.counter + 1)

/-- The options that a generated field offers. -/
def defaultOptions : List String := ["Option 1", "Option 2"]

/-- The field that is generated with a number. -/
def generate (t : FieldType) (n place : Nat) : Field where
  id := generatedId n
  type := t
  label := t.title ++ " Field"
  key := generatedKey t n
  placeholder := some ""
  options := if t.hasOptions then some defaultOptions else none
  validation := some {}
  order := place

/-- Appends a generated field of a kind. -/
def addFieldOf (e : Editor) (t : FieldType) : Edit Field :=
  let n := e.nextNumber t
  let f := generate t n e.fields.length
  { e with fields := e.fields ++ [f], counter := n }.changed .addField f []

/-- Appends a generated field of the kind that a value names. -/
def addField (e : Editor) (kind : Value) : Edit Field :=
  match kind with
  | .text s =>
    match FieldType.ofName? s with
    | some t => e.addFieldOf t
    | none => .refused e (.notAFieldType kind)
  | _ => .refused e (.notAFieldType kind)

/-- Appends generated fields of these kinds, up to the first that is refused. -/
def addFields : Editor → List Value → Except EditError Editor
  | e, [] => .ok e
  | e, kind :: rest =>
    let edit := e.addField kind
    match edit.result with
    | .ok _ => addFields edit.editor rest
    | .error error => .error error

/-- The notice about conditions that have lost the field they refer to. -/
def stillReferenced (removed : Field) (fields : List Field) : List Notice :=
  match fields.filter fun f => f.conditionList.any fun c => c.fieldKey == removed.key with
  | [] => []
  | fs =>
    [.warning ("Deleted field '" ++ removed.key ++ "' is still referenced by conditions on: " ++
      String.intercalate ", " (fs.map (·.key)))]

/-- Takes a field out. Conditions that refer to it are kept. -/
def deleteField (e : Editor) (i : Int) : Edit Field :=
  .with? e ((Position.findRemoval e.fields.length i).mapError .position) fun n =>
    match e.fields[n]? with
    | none => .refused e (.position .removal)
    | some f =>
      let fields := renumber (e.fields.eraseIdx n)
      { e with fields := fields }.changed .deleteField f (stillReferenced f fields)

/-- Moves a member of a list. -/
def move (xs : List α) (source target : Nat) : List α :=
  match xs[source]? with
  | some x => (xs.eraseIdx source).insertIdx target x
  | none => xs

/-- Moves a field from one position to another, both brought into range. -/
def reorderField (e : Editor) (source target : Int) : Edit Unit :=
  if e.fields.isEmpty then { editor := e, result := .ok () }
  else
    let last := e.fields.length - 1
    let fields := renumber (move e.fields (Position.clamp last source) (Position.clamp last target))
    { e with fields := fields }.changed .reorderField () []

/-- Assigns values to attributes one after the other, up to the first that is refused. -/
def assignAll (locked : List String) (assign : α → String → Value → Checked α) (a : α) :
    List (String × Value) → α × Option EditError
  | [] => (a, none)
  | (name, v) :: rest =>
    if locked.contains name then (a, some (.locked name))
    else
      match assign a name v with
      | .ok b => assignAll locked assign b rest
      | .bad issues => (a, some (.unreadable issues))

def setField (e : Editor) (n : Nat) (f : Field) : Editor := { e with fields := e.fields.set n f }

/-- Ends an edit of a field or condition that may have stopped at a value. -/
def finish (e : Editor) (reason : Reason) (result : α) : Option EditError → Edit α
  | none => e.changed reason result []
  | some error => .refused e error

/-- Attributes that edits cannot change. -/
def managedNames : List String := ["id", "order"]

/-- Changes attributes of a field, in order. -/
def updateField (e : Editor) (i : Int) (changes : Record) : Edit Field :=
  match changes.keys.filter managedNames.contains with
  | [] =>
    .with? e (e.fieldAt i) fun (n, f) =>
      let (g, stopped) := assignAll e.locked Field.assign f changes
      (e.setField n g).finish .updateField g stopped
  | managed => .refused e (.managedAttributes (sortNames managed))

/-- The lines of a text. -/
def linesOf : List Char → List (List Char)
  | [] => [[]]
  | c :: rest =>
    if c = '\n' then [] :: linesOf rest
    else match linesOf rest with
      | [] => [[c]]
      | line :: more => (c :: line) :: more

/-- The lines of a text that are not blank. -/
def optionsOfText (s : String) : List String :=
  ((linesOf s.toList).map String.ofList).filter fun l => !Text.isBlankText l

/-- Sets the options of a field to the lines of a text. -/
def setOptionsFromText (e : Editor) (i : Int) (s : String) : Edit (List String) :=
  let options := optionsOfText s
  (e.updateField i [("options", .list (options.map .text))]).map fun _ => options

/-- Sets the key of a field to the slug of its label, if it has one. The result is the key. -/
def deriveKeyFromLabel (e : Editor) (i : Int) : Edit String :=
  .with? e (e.fieldAt i) fun (_, f) =>
    if f.label = "" then { editor := e, result := .ok f.key }
    else (e.updateField i [("key", .text (slug f.label))]).map (·.key)

/-! ## Conditions -/

/-- The condition that a field starts with. -/
def blankCondition : Condition := { fieldKey := "", operator := .equals, value := .text "" }

/-- Appends a blank condition to those of a field. -/
def addCondition (e : Editor) (i : Int) : Edit Condition :=
  .with? e (e.fieldAt i) fun (n, f) =>
    (e.setField n { f with conditions := some (f.conditionList ++ [blankCondition]) }).changed
      .addCondition blankCondition []

/-- Deletes a condition of a field. A field without conditions is left alone. -/
def removeCondition (e : Editor) (i j : Int) : Edit Unit :=
  .with? e (e.fieldAt i) fun (n, f) =>
    if f.conditionList.isEmpty then { editor := e, result := .ok () }
    else
      .with? e ((Position.find .deletion f.conditionList.length j).mapError .position) fun m =>
        (e.setField n { f with conditions := some (f.conditionList.eraseIdx m) }).changed
          .removeCondition () []

/-- Changes attributes of a condition, in order. -/
def updateCondition (e : Editor) (i j : Int) (changes : Record) : Edit Condition :=
  .with? e (e.fieldAt i) fun (n, f) =>
    if f.conditionList.isEmpty then .refused e (.noConditions f.key)
    else
      .with? e ((Position.find .lookup f.conditionList.length j).mapError .position) fun m =>
        match f.conditionList[m]? with
        | none => .refused e (.position .lookup)
        | some c =>
          let (d, stopped) := assignAll e.locked Condition.assign c changes
          (e.setField n { f with conditions := some (f.conditionList.set m d) }).finish
            .updateCondition d stopped

/-! ## Storage and listeners -/

/-- Adopts the identity under which the form has been stored, and nothing else. -/
def applySaved (e : Editor) (saved : Definition) : Editor × List Notice :=
  match saved.id with
  | none => (e, [])
  | some id =>
    if e.formId = some id then (e, [])
    else
      ({ e with formId := some id },
        [.info ("Form '" ++ e.key.display ++ "' now stored with id " ++ id.display)])

/-- Adds a listener. One that listens `once` unsubscribes itself when it is called. -/
def subscribe (e : Editor) (once : Bool) : Nat × Editor :=
  let (ticket, listeners) := e.listeners.subscribe fun t => if once then [t] else []
  (ticket, { e with listeners := listeners })

def unsubscribe (e : Editor) (ticket : Nat) : Editor :=
  { e with listeners := e.listeners.unsubscribe ticket }

end Editor

end DynamicForm
