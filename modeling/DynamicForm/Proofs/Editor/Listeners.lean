import DynamicForm.Editor.Command

/-!
# Listeners have no say

Listeners are called after an edit. Who listens does not matter to the edit: two editors that differ
in their listeners do the same and say the same, and still differ in their listeners only.

This is what lets listeners be left out of account elsewhere. A subscriber that unsubscribes while
it is called changes the table of listeners and nothing that an edit looks at; so what an edit does
to the fields may be computed with no listeners at all, and who listens may be looked at apart.

The relation has a constructor for each of the two ways in which an edit can end. Either it leaves
the listeners alone, because nothing has changed, or it calls all of them as its last act, and then
each of the two editors calls its own.

- `Editor.withListeners` exchanges the listeners of an editor.
- `Edit.Echoes`: an edit does the same as another one, but for the listeners.
- `Editor.perform_echoes`: every command does.
-/

namespace DynamicForm

/-- The editor with other listeners. -/
def Editor.withListeners (e : Editor) (l : Subscribers) : Editor := { e with listeners := l }

@[simp] theorem Editor.withListeners_fields (e : Editor) (l : Subscribers) :
    (e.withListeners l).fields = e.fields := rfl

@[simp] theorem Editor.withListeners_formId (e : Editor) (l : Subscribers) :
    (e.withListeners l).formId = e.formId := rfl

/-- The second edit does the same as the first one on an editor with other listeners: either they say
nothing to anyone, or the same to all. -/
inductive Edit.Echoes (l l' : Subscribers) {α : Type} : Edit α → Edit α → Prop where
  | silent (e : Editor) (result : Except EditError α) (notices : List Notice) :
      Echoes l l' { editor := e.withListeners l, result := result, notices := notices }
        { editor := e.withListeners l', result := result, notices := notices }
  | told (e : Editor) (reason : Reason) (result : α) (notices : List Notice) :
      Echoes l l' ((e.withListeners l).changed reason result notices)
        ((e.withListeners l').changed reason result notices)

namespace Edit.Echoes

variable {α β : Type} {e : Editor} {l l' : Subscribers} {x y : Edit α}

/-- What the edits lead to differs in the listeners. -/
theorem editor (h : Echoes l l' x y) : ∃ after, y.editor = x.editor.withListeners after := by
  cases h with
  | silent e result notices => exact ⟨l', rfl⟩
  | told e reason result notices => exact ⟨l'.notify.2, rfl⟩

/-- What is said to the caller does not depend on who listens. -/
theorem notices (h : Echoes l l' x y) : y.notices = x.notices := by
  cases h <;> rfl

/-- What is made of the result does not matter either. -/
theorem map (f : α → β) (h : Echoes l l' x y) : Echoes l l' (x.map f) (y.map f) := by
  cases h with
  | silent e result notices => exact .silent e (result.map f) notices
  | told e reason result notices => exact .told e reason (f result) notices

/-- An edit that leaves the editor as it is, is an echo of itself. -/
theorem idle (result : Except EditError α) :
    Echoes e.listeners l { editor := e, result := result }
      { editor := e.withListeners l, result := result } :=
  .silent e result []

/-- An edit whose last act is to call the listeners calls those of the editor it is given. -/
theorem changed (h : e.listeners = l) (reason : Reason) (result : α) (notices : List Notice) :
    Echoes l l' (e.changed reason result notices)
      ((e.withListeners l').changed reason result notices) := by
  subst h
  exact .told e reason result notices

theorem refused (error : EditError) :
    Echoes e.listeners l (Edit.refused e error : Edit α) (Edit.refused (e.withListeners l) error) :=
  idle (.error error)

/-- An edit that first looks something up finds the same in both editors, since nothing is found
among the listeners. It is enough then that the two go on alike with whatever has been found. -/
theorem with? (found : Except EditError β) {next other : β → Edit α}
    (h : ∀ b, Echoes e.listeners l (next b) (other b)) :
    Echoes e.listeners l (Edit.with? e found next) (Edit.with? (e.withListeners l) found other) := by
  cases found with
  | ok b => exact h b
  | error error => exact refused error

/-- An edit that has been stopped on the way calls nobody, one that has come to its end calls all.
-/
theorem finish (h : e.listeners = l) (reason : Reason) (result : α) (stopped : Option EditError) :
    Echoes l l' (e.finish reason result stopped)
      ((e.withListeners l').finish reason result stopped) := by
  subst h
  cases stopped with
  | none => exact changed rfl reason result []
  | some error => exact refused error

end Edit.Echoes

namespace Editor

open Edit (Echoes)

variable (e : Editor) (l : Subscribers)

/-! ## The commands

One lemma a command, each in two steps: the position is looked up in fields that are the same, and
what is done with the field that is found ends in a call of the listeners. -/

theorem assignMetadata_withListeners (name : String) (v : Value) :
    (e.withListeners l).assignMetadata name v = (e.assignMetadata name v).withListeners l := by
  unfold assignMetadata
  split <;> rfl

/-- Attributes are assigned one by one, and no assignment looks at the listeners. -/
theorem foldl_assignMetadata_withListeners (changes : Record) :
    changes.foldl (fun e c => e.assignMetadata c.1 c.2) (e.withListeners l) =
      (changes.foldl (fun e c => e.assignMetadata c.1 c.2) e).withListeners l := by
  induction changes generalizing e with
  | nil => rfl
  | cons c rest ih => rw [List.foldl_cons, List.foldl_cons, assignMetadata_withListeners, ih]

theorem updateMetadata_echoes (changes : Record) :
    Echoes e.listeners l (e.updateMetadata changes) ((e.withListeners l).updateMetadata changes) := by
  unfold updateMetadata
  split
  · have hlisteners := congrArg listeners (e.foldl_assignMetadata_withListeners e.listeners changes)
    rw [foldl_assignMetadata_withListeners]
    exact .changed hlisteners _ _ _
  · exact .refused _

theorem addField_echoes (kind : Value) :
    Echoes e.listeners l (e.addField kind) ((e.withListeners l).addField kind) := by
  unfold addField
  split
  · split
    · exact .changed (by rfl) _ _ _
    · exact .refused _
  · exact .refused _

theorem deleteField_echoes (i : Int) :
    Echoes e.listeners l (e.deleteField i) ((e.withListeners l).deleteField i) := by
  refine .with? _ fun n => ?_
  rw [withListeners_fields]
  cases e.fields[n]? with
  | none => exact .refused _
  | some f => exact .changed (by rfl) _ _ _

theorem reorderField_echoes (source target : Int) :
    Echoes e.listeners l (e.reorderField source target)
      ((e.withListeners l).reorderField source target) := by
  unfold reorderField
  rw [withListeners_fields]
  split
  · exact .idle _
  · exact .changed (by rfl) _ _ _

theorem updateField_echoes (i : Int) (changes : Record) :
    Echoes e.listeners l (e.updateField i changes) ((e.withListeners l).updateField i changes) := by
  unfold updateField
  split
  · refine .with? _ fun found => ?_
    exact .finish (by rfl) _ _ _
  · exact .refused _

theorem deriveKeyFromLabel_echoes (i : Int) :
    Echoes e.listeners l (e.deriveKeyFromLabel i) ((e.withListeners l).deriveKeyFromLabel i) := by
  refine .with? _ fun found => ?_
  dsimp only
  split
  · exact .idle _
  · exact (e.updateField_echoes l i _).map _

theorem addCondition_echoes (i : Int) :
    Echoes e.listeners l (e.addCondition i) ((e.withListeners l).addCondition i) :=
  .with? _ fun _ => .changed (by rfl) _ _ _

theorem removeCondition_echoes (i j : Int) :
    Echoes e.listeners l (e.removeCondition i j) ((e.withListeners l).removeCondition i j) := by
  refine .with? _ fun found => ?_
  dsimp only
  split
  · exact .idle _
  · exact .with? _ fun _ => .changed (by rfl) _ _ _

theorem updateCondition_echoes (i j : Int) (changes : Record) :
    Echoes e.listeners l (e.updateCondition i j changes)
      ((e.withListeners l).updateCondition i j changes) := by
  refine .with? _ fun found => ?_
  dsimp only
  split
  · exact .refused _
  · refine .with? _ fun m => ?_
    split
    · exact .refused _
    · exact .finish (by rfl) _ _ _

/-- **Every command** does the same whoever listens. -/
theorem perform_echoes (c : Command) :
    Echoes e.listeners l (e.perform c) ((e.withListeners l).perform c) := by
  cases c with
  | updateMetadata changes => exact (e.updateMetadata_echoes l changes).map _
  | addField kind => exact (e.addField_echoes l kind).map _
  | deleteField i => exact (e.deleteField_echoes l i).map _
  | reorderField i j => exact (e.reorderField_echoes l i j).map _
  | updateField i changes => exact (e.updateField_echoes l i changes).map _
  | setOptionsFromText i s => exact ((e.updateField_echoes l i _).map _).map _
  | deriveKeyFromLabel i => exact (e.deriveKeyFromLabel_echoes l i).map _
  | addCondition i => exact (e.addCondition_echoes l i).map _
  | removeCondition i j => exact (e.removeCondition_echoes l i j).map _
  | updateCondition i j changes => exact (e.updateCondition_echoes l i j changes).map _

/-- Nor does it matter to an identity that comes from the storage. -/
theorem applySaved_withListeners (saved : Definition) : (e.withListeners l).applySaved saved =
    ((e.applySaved saved).1.withListeners l, (e.applySaved saved).2) := by
  unfold applySaved
  split
  · rfl
  · rw [withListeners_formId]
    split <;> rfl

end Editor

end DynamicForm
