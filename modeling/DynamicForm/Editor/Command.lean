import DynamicForm.Editor.Edit

/-!
# Commands

Every edit as a piece of data, so that a course of edits is a list of commands.
-/

namespace DynamicForm

/-- An edit that is asked for. -/
inductive Command where
  | updateMetadata (changes : Record)
  | addField (kind : Value)
  | deleteField (index : Int)
  | reorderField (source target : Int)
  | updateField (index : Int) (changes : Record)
  | setOptionsFromText (index : Int) (s : String)
  | deriveKeyFromLabel (index : Int)
  | addCondition (index : Int)
  | removeCondition (index condition : Int)
  | updateCondition (index condition : Int) (changes : Record)

/-- What an edit answers. -/
inductive Reply where
  | nothing
  | field (f : Field)
  | condition (c : Condition)
  | options (options : List String)
  | key (key : String)

/-- Carries out a command. -/
def Editor.perform (e : Editor) : Command → Edit Reply
  | .updateMetadata changes => (e.updateMetadata changes).map fun _ => .nothing
  | .addField kind => (e.addField kind).map .field
  | .deleteField i => (e.deleteField i).map .field
  | .reorderField i j => (e.reorderField i j).map fun _ => .nothing
  | .updateField i changes => (e.updateField i changes).map .field
  | .setOptionsFromText i s => (e.setOptionsFromText i s).map .options
  | .deriveKeyFromLabel i => (e.deriveKeyFromLabel i).map .key
  | .addCondition i => (e.addCondition i).map .condition
  | .removeCondition i j => (e.removeCondition i j).map fun _ => .nothing
  | .updateCondition i j changes => (e.updateCondition i j changes).map .condition

end DynamicForm
