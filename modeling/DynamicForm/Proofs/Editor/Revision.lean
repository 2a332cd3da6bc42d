import DynamicForm.Editor.Command
import DynamicForm.Proofs.Definition.Reading
import Mathlib.Data.List.Basic

/-!
# How edits end

Whatever a command asks for, it ends in one of four ways. It is refused and nothing has changed, or
there is nothing to do, or the editor is revised and the listeners are called; or it stops at a value
that cannot be stored after others have been stored. The last happens only where several attributes
of a field or of a condition are changed at once, since they are assigned one after the other.

What listeners are told is said by the command and the editor, before it is carried out.

Later modules take an edit apart through `Editor.perform_ends` and never look at what a command does
in detail. A new command needs a case there, and a new kind of change a constructor of
`Editor.Revises` with a case in each invariant.

- `Editor.Revises` lists what an edit can make of an editor.
- `Command.reason?` is what listeners have to be told of a command that is carried out.
- `Editor.Ends` lists the ways in which an edit ends.
- `Editor.perform_ends`: every command ends in one of them.
-/

namespace DynamicForm

/-- The identity and the number of a field are assigned under their own names only. -/
theorem Field.assign_keeps {f g : Field} {name : String} {v : Value} (h : f.assign name v = .ok g)
    (hid : name ≠ "id") (horder : name ≠ "order") : g.id = f.id ∧ g.order = f.order := by
  unfold Field.assign at h
  split at h <;> first
    | exact absurd rfl hid
    | exact absurd rfl horder
    | obtain ⟨b, -, rfl⟩ := Read.assigned_eq_ok.mp h
      exact ⟨rfl, rfl⟩
    | obtain rfl := Checked.ok.inj h
      exact ⟨rfl, rfl⟩
    | rw [Read.unknown_eq_ok h]
      exact ⟨rfl, rfl⟩

namespace Editor

/-! ## Assigning one value after the other

Changes of attributes come in a list and are made in its order. There is no way back from one that
has been made, so what a list of changes leaves is decided by where it stops. -/

section Assigning

variable {α : Type} {locked : List String} {assign : α → String → Value → Checked α} {a b : α}
  {changes : List (String × Value)} {error : EditError}

/-- What every change keeps, all keep. -/
theorem assignAll_keeps {P : α → Prop} (hstep : ∀ c ∈ changes, ∀ a b, P a →
    assign a c.1 c.2 = .ok b → P b) (ha : P a) : P (assignAll locked assign a changes).1 := by
  induction changes generalizing a with
  | nil => exact ha
  | cons c rest ih =>
    obtain ⟨hc, hrest⟩ := List.forall_mem_cons.mp hstep
    unfold assignAll
    split
    · exact ha
    · split
      · next b hb => exact ih hrest (hc a b ha hb)
      · exact ha

/-- Assigning stops at one value. What comes before it has been assigned. -/
theorem assignAll_stopped (h : assignAll locked assign a changes = (b, some error)) :
    ∃ before c after, changes = before ++ c :: after ∧
      assignAll locked assign a before = (b, none) ∧
      assignAll locked assign b [c] = (b, some error) := by
  induction changes generalizing a with
  | nil => cases h
  | cons c rest ih =>
    obtain ⟨name, v⟩ := c
    unfold assignAll at h
    split at h
    -- a locked attribute stops the list before anything of it is read
    · next hlocked =>
      obtain rfl := (Prod.mk.inj h).1
      refine ⟨[], (name, v), rest, rfl, rfl, ?_⟩
      rw [assignAll, if_pos hlocked]
      exact h
    · next hfree =>
      split at h
      -- one change is made, and the list stops further on
      · next a' ha' =>
        obtain ⟨before, c, after, rfl, hbefore, hc⟩ := ih h
        refine ⟨(name, v) :: before, c, after, rfl, ?_, hc⟩
        rw [assignAll, if_neg hfree, ha']
        exact hbefore
      · next issues hbad =>
        obtain rfl := (Prod.mk.inj h).1
        refine ⟨[], (name, v), rest, rfl, rfl, ?_⟩
        rw [assignAll, if_neg hfree, hbad]
        exact h

end Assigning

/-! ## Revisions

Listeners and identity are not among what a revision touches. A field that takes the place of
another keeps its identity and its number. -/

variable {e : Editor}

/-- What an edit can make of an editor. -/
inductive Revises (e : Editor) : Editor → Prop where
  | metadata (name key description : Value) :
      Revises e { e with name := name, key := key, description := description }
  | append (t : FieldType) :
      Revises e { e with fields := e.fields ++ [generate t (e.nextNumber t) e.fields.length]
                         counter := e.nextNumber t }
  | erase (n : Nat) : Revises e { e with fields := renumber (e.fields.eraseIdx n) }
  | move (source target : Nat) : source < e.fields.length → target < e.fields.length →
      Revises e { e with fields := renumber (move e.fields source target) }
  | replace {n : Nat} {f : Field} (g : Field) : e.fields[n]? = some f → g.id = f.id →
      g.order = f.order → Revises e (e.setField n g)

theorem Revises.formId_eq {e' : Editor} (h : e.Revises e') : e'.formId = e.formId := by
  cases h <;> rfl

/-- A revision calls nobody; that is done when it is over. -/
theorem Revises.listeners_eq {e' : Editor} (h : e.Revises e') : e'.listeners = e.listeners := by
  cases h <;> rfl

/-- However many attributes of the form are assigned, the result is one revision of all three. -/
theorem assignMetadata_foldl (e : Editor) (changes : Record) :
    e.Revises (changes.foldl (fun e c => e.assignMetadata c.1 c.2) e) := by
  obtain ⟨name, key, description, h⟩ : ∃ name key description,
      changes.foldl (fun e c => e.assignMetadata c.1 c.2) e =
        { e with name := name, key := key, description := description } := by
    induction changes generalizing e with
    | nil => exact ⟨e.name, e.key, e.description, rfl⟩
    | cons c rest ih =>
      obtain ⟨name, key, description, h⟩ := ih (e.assignMetadata c.1 c.2)
      refine ⟨name, key, description, h.trans ?_⟩
      unfold assignMetadata
      split <;> rfl
  rw [h]
  exact .metadata name key description

end Editor

/-! ## What listeners have to be told

This is said of a command before it is carried out, and by itself: it does not ask whether a call
has been made. What an edit does can so be held against what it ought to do. -/

namespace Command

/-- What has been edited when the command has been carried out. Nothing has when it finds nothing to
do: there is no field to move, no label to derive a key from, or no condition to delete. -/
def reason? (e : Editor) : Command → Option Reason
  | updateMetadata _ => some .metadata
  | addField _ => some .addField
  | deleteField _ => some .deleteField
  | reorderField _ _ => if e.fields.isEmpty then none else some .reorderField
  | updateField _ _ => some .updateField
  | setOptionsFromText _ _ => some .updateField
  | deriveKeyFromLabel i =>
    match e.fieldAt i with
    | .ok (_, f) => if f.label = "" then none else some .updateField
    | .error _ => none
  | addCondition _ => some .addCondition
  | removeCondition i _ =>
    match e.fieldAt i with
    | .ok (_, f) => if f.conditionList.isEmpty then none else some .removeCondition
    | .error _ => none
  | updateCondition _ _ _ => some .updateCondition

end Command

/-- What listeners have to be told of an edit: what has been edited, if it returns. -/
def Edit.owed? {α : Type} (edit : Edit α) (reason? : Option Reason) : Option Reason :=
  match edit.result with
  | .ok _ => reason?
  | .error _ => none

/-! ## The four ways

The first two leave the editor as it is. The third one revises it and calls the listeners as its
last act, and the fourth revises it without a call. -/

/-- What a command leaves behind that stops at a change after others have been made: those stay. -/
inductive Command.Leaves (e : Editor) : Command → Editor → Prop where
  | field {i : Int} {n : Nat} {f g : Field} {before after : Record} {change : String × Value}
      {error : EditError} (found : e.fieldAt i = .ok (n, f))
      (managed : (before ++ change :: after).keys.filter Editor.managedNames.contains = [])
      (made : Editor.assignAll e.locked Field.assign f before = (g, none)) (some_made : before ≠ [])
      (refused : Editor.assignAll e.locked Field.assign g [change] = (g, some error)) :
      Leaves e (.updateField i (before ++ change :: after)) (e.setField n g)
  | condition {i j : Int} {n m : Nat} {f : Field} {c d : Condition} {before after : Record}
      {change : String × Value} {error : EditError} (found : e.fieldAt i = .ok (n, f))
      (place : Position.find .lookup f.conditionList.length j = .ok m)
      (there : f.conditionList[m]? = some c)
      (made : Editor.assignAll e.locked Condition.assign c before = (d, none))
      (some_made : before ≠ [])
      (refused : Editor.assignAll e.locked Condition.assign d [change] = (d, some error)) :
      Leaves e (.updateCondition i j (before ++ change :: after))
        (e.setField n { f with conditions := some (f.conditionList.set m d) })

namespace Editor

variable {e : Editor}

/-- How a command ends. -/
inductive Ends (e : Editor) (c : Command) {α : Type} : Edit α → Prop where
  | refused (error : EditError) : Ends e c (.refused e error)
  | idle (untold : c.reason? e = none) (a : α) : Ends e c { editor := e, result := .ok a }
  | changed {e' : Editor} (revises : e.Revises e') {reason : Reason}
      (told : c.reason? e = some reason) (a : α) (notices : List Notice) :
      Ends e c (e'.changed reason a notices)
  | stopped {e' : Editor} (leaves : c.Leaves e e') (error : EditError) : Ends e c (.refused e' error)

variable {α β : Type} {c : Command} {edit : Edit α}

/-- What is made of the result has no part in how an edit ends. -/
theorem Ends.map (h : Ends e c edit) (g : α → β) : Ends e c (edit.map g) := by
  cases h with
  | refused error => exact .refused error
  | idle untold a => exact .idle untold (g a)
  | changed revises told a notices => exact .changed revises told (g a) notices
  | stopped leaves error => exact .stopped leaves error

/-- An edit ends in the same way for another command of which listeners are told the same. -/
theorem Ends.imp {c' : Command} (h : Ends e c edit) (hreason : c'.reason? e = c.reason? e)
    (hleaves : ∀ e', c.Leaves e e' → c'.Leaves e e') : Ends e c' edit := by
  cases h with
  | refused error => exact .refused error
  | idle untold a => exact .idle (hreason.trans untold) a
  | changed revises told a notices => exact .changed revises (hreason.trans told) a notices
  | stopped leaves error => exact .stopped (hleaves _ leaves) error

/-- An edit that is carried out on what has been found ends as it does there. -/
theorem ends_with? {found : Except EditError β} {next : β → Edit α}
    (h : ∀ b, found = .ok b → Ends e c (next b)) : Ends e c (Edit.with? e found next) := by
  cases found with
  | ok b => exact h b rfl
  | error error => exact .refused error

/-- A position that has been found is one of a field, also when it was counted from the end. -/
theorem fieldAt_eq_ok {i : Int} {n : Nat} {f : Field} (h : e.fieldAt i = .ok (n, f)) :
    e.fields[n]? = some f := by
  unfold fieldAt at h
  rcases hn : e.findField i with error | m
  · rw [hn] at h
    cases h
  · simp only [hn, bind, Except.bind] at h
    split at h
    · next g hg =>
      obtain ⟨rfl, rfl⟩ := Prod.mk.inj (Except.ok.inj h)
      exact hg
    · cases h

/-- A position that is brought into range is in range, unless there is none. -/
theorem clamp_lt {length : Nat} (h : 0 < length) (i : Int) :
    Position.clamp (length - 1) i < length := by
  unfold Position.clamp
  omega

/-- Putting a field back where it stands changes nothing. -/
theorem setField_self {n : Nat} {f : Field} (h : e.fields[n]? = some f) : e.setField n f = e := by
  obtain ⟨hlt, rfl⟩ := List.getElem?_eq_some_iff.mp h
  rw [setField, List.set_getElem_self]

/-- Putting a condition back where it stands changes nothing. -/
theorem setCondition_self {f : Field} {m : Nat} {c : Condition}
    (h : f.conditionList[m]? = some c) :
    { f with conditions := some (f.conditionList.set m c) } = f := by
  obtain ⟨hlt, rfl⟩ := List.getElem?_eq_some_iff.mp h
  rw [List.set_getElem_self]
  cases hconditions : f.conditions with
  | none =>
    simp [Field.conditionList, hconditions] at hlt
  | some cs =>
    rw [Field.conditionList, hconditions]
    exact congrArg (fun conditions => { f with conditions := conditions }) hconditions.symm

/-- What faults are called does not matter to what succeeds. -/
theorem mapError_eq_ok {ε ε' : Type} {x : Except ε β} {g : ε → ε'} {b : β} :
    x.mapError g = .ok b ↔ x = .ok b := by
  cases x <;> simp [Except.mapError]

/-! ## Every command

A command looks up a position, tests what it has found, and ends. Most of them end in one change.
Only the two that take a list of changes can stop on the way; a list of one change cannot, so that
commands built on such a list are made or refused. -/

/-- Names that are not managed leave the identity and the number of a field alone. -/
theorem assignAll_field_keeps (locked : List String) (f : Field) {changes : Record}
    (h : changes.keys.filter managedNames.contains = []) :
    (assignAll locked Field.assign f changes).1.id = f.id ∧
      (assignAll locked Field.assign f changes).1.order = f.order := by
  refine assignAll_keeps (P := fun g : Field => g.id = f.id ∧ g.order = f.order) ?_ ⟨rfl, rfl⟩
  intro c hc a b ha hb
  have hname := List.filter_eq_nil_iff.mp h c.1 (List.mem_map_of_mem hc)
  have hkeeps := Field.assign_keeps hb (by rintro heq; simp [heq, managedNames] at hname)
    (by rintro heq; simp [heq, managedNames] at hname)
  exact ⟨hkeeps.1.trans ha.1, hkeeps.2.trans ha.2⟩

/-- The changes are made on a copy of the field, and the copy is put in place however far they went.
-/
theorem updateField_ends (e : Editor) (i : Int) (changes : Record) :
    Ends e (.updateField i changes) (e.updateField i changes) := by
  unfold updateField
  split
  · next hmanaged =>
    refine ends_with? fun ⟨n, f⟩ hfound => ?_
    have hf := fieldAt_eq_ok hfound
    have hkeeps := assignAll_field_keeps e.locked f hmanaged
    rcases hassigned : assignAll e.locked Field.assign f changes with ⟨g, _ | error⟩
    · rw [hassigned] at hkeeps
      simp only [hassigned]
      exact .changed (.replace g hf hkeeps.1 hkeeps.2) rfl g []
    · obtain ⟨before, change, after, rfl, hmade, hrefused⟩ := assignAll_stopped hassigned
      simp only [hassigned]
      -- Refused at the first change, the edit puts the field back as it was.
      by_cases hbefore : before = []
      · subst hbefore
        obtain ⟨rfl, -⟩ := Prod.mk.inj hmade
        rw [setField_self hf]
        exact .refused error
      · exact .stopped (.field hfound hmanaged hmade hbefore hrefused) error
  · exact .refused _

/-- Of a single change nothing can stay. -/
theorem not_leaves_one {i : Int} {change : String × Value} {e' : Editor} :
    ¬(Command.updateField i [change]).Leaves e e' := by
  intro h
  generalize hc : Command.updateField i [change] = c at h
  cases h with
  | field _ _ _ some_made _ =>
    obtain ⟨-, hchanges⟩ := Command.updateField.inj hc
    rcases List.append_eq_singleton_iff.mp hchanges.symm with ⟨hnil, -⟩ | ⟨-, hnil⟩
    · exact some_made hnil
    · cases hnil
  | condition _ _ _ _ _ _ => cases hc

/-- An edit of one attribute is made or refused. -/
theorem updateField_one_ends (e : Editor) {c : Command} (hreason : c.reason? e = some .updateField)
    (i : Int) (change : String × Value) : Ends e c (e.updateField i [change]) :=
  (updateField_ends e i [change]).imp hreason fun _ h => absurd h not_leaves_one

/-- The same for the attributes of a condition. The condition stands in a field, so it is the field
that is put in place. -/
theorem updateCondition_ends (e : Editor) (i j : Int) (changes : Record) :
    Ends e (.updateCondition i j changes) (e.updateCondition i j changes) := by
  refine ends_with? fun ⟨n, f⟩ hfound => ?_
  have hf := fieldAt_eq_ok hfound
  dsimp only
  split
  · exact .refused _
  · refine ends_with? fun m hm => ?_
    split
    · exact .refused _
    · next c hc =>
      rcases hassigned : assignAll e.locked Condition.assign c changes with ⟨d, _ | error⟩
      · exact .changed (.replace { f with conditions := some (f.conditionList.set m d) } hf rfl rfl)
          rfl d []
      · obtain ⟨before, change, after, rfl, hmade, hrefused⟩ := assignAll_stopped hassigned
        -- refused at the first change, the edit puts condition and field back as they were
        by_cases hbefore : before = []
        · subst hbefore
          obtain ⟨rfl, -⟩ := Prod.mk.inj hmade
          rw [setCondition_self hc]
          dsimp only
          rw [setField_self hf]
          exact .refused error
        · exact .stopped (.condition hfound (mapError_eq_ok.mp hm) hc hmade hbefore hrefused) error

/-- **How commands end.** -/
theorem perform_ends (e : Editor) (c : Command) : Ends e c (e.perform c) := by
  cases c with
  | updateMetadata changes =>
    refine Ends.map ?_ _
    unfold updateMetadata
    split
    · exact .changed (assignMetadata_foldl e changes) rfl () []
    · exact .refused _
  | addField kind =>
    refine Ends.map ?_ _
    unfold addField
    split
    · split
      · next t _ => exact .changed (.append t) rfl _ []
      · exact .refused _
    · exact .refused _
  | deleteField i =>
    refine Ends.map (ends_with? fun n _ => ?_) _
    split
    · exact .refused _
    · exact .changed (.erase n) rfl _ _
  | reorderField i j =>
    refine Ends.map ?_ _
    unfold reorderField
    split
    · next hempty => exact .idle (by rw [Command.reason?, if_pos hempty]) ()
    · next hfields =>
      have hpos := List.length_pos_iff.mpr (mt List.isEmpty_iff.mpr hfields)
      have hreason : (Command.reorderField i j).reason? e = some .reorderField := by
        rw [Command.reason?, if_neg hfields]
      exact .changed (.move _ _ (clamp_lt hpos i) (clamp_lt hpos j)) hreason () []
  | updateField i changes => exact (updateField_ends e i changes).map _
  | setOptionsFromText i s => exact (updateField_one_ends e rfl i _).map _ |>.map _
  -- a key is derived by an edit of one attribute, unless there is no label
  | deriveKeyFromLabel i =>
    refine Ends.map (ends_with? fun ⟨n, f⟩ hfound => ?_) _
    dsimp only
    split
    · next hlabel => exact .idle (by rw [Command.reason?, hfound]; exact if_pos hlabel) _
    · next hlabel =>
      have hreason : (Command.deriveKeyFromLabel i).reason? e = some .updateField := by
        rw [Command.reason?, hfound]
        exact if_neg hlabel
      exact (updateField_one_ends e hreason i _).map _
  | addCondition i =>
    exact Ends.map (ends_with? fun ⟨n, f⟩ hfound => .changed
      (.replace { f with conditions := some (f.conditionList ++ [blankCondition]) }
        (fieldAt_eq_ok hfound) rfl rfl) rfl blankCondition []) _
  -- without conditions there is nothing to do, wherever the position points
  | removeCondition i j =>
    refine Ends.map (ends_with? fun ⟨n, f⟩ hfound => ?_) _
    dsimp only
    split
    · next hempty => exact .idle (by rw [Command.reason?, hfound]; exact if_pos hempty) ()
    · next hconditions =>
      refine ends_with? fun m _ => .changed
        (.replace { f with conditions := some (f.conditionList.eraseIdx m) }
          (fieldAt_eq_ok hfound) rfl rfl) ?_ () []
      rw [Command.reason?, hfound]
      exact if_neg hconditions
  | updateCondition i j changes => exact (updateCondition_ends e i j changes).map _

/-! ## What is left

For invariants it does not matter whether an edit has stopped on the way, only what it leaves. -/

/-- What stays of changes that have been stopped is a revision too. -/
theorem revises_of_leaves {e' : Editor} (h : c.Leaves e e') : e.Revises e' := by
  cases h with
  | @field i n f g before after change error found managed made some_made refused =>
    have hbefore : before.keys.filter managedNames.contains = [] := by
      rw [Record.keys, List.map_append, List.filter_append, List.append_eq_nil_iff] at managed
      exact managed.1
    have hkeeps := assignAll_field_keeps e.locked f hbefore
    rw [made] at hkeeps
    exact .replace g (fieldAt_eq_ok found) hkeeps.1 hkeeps.2
  | condition found _ _ _ _ _ => exact .replace _ (fieldAt_eq_ok found) rfl rfl

/-- **What a command leaves.** It leaves the editor as it was or revised, whether it succeeds or not,
and otherwise it can only make listeners drop out. -/
theorem perform_editor (e : Editor) (c : Command) : ∃ e' listeners, (e' = e ∨ e.Revises e') ∧
    (e.perform c).editor = { e' with listeners := listeners } := by
  have h := perform_ends e c
  generalize e.perform c = edit at h
  cases h with
  | refused error => exact ⟨e, e.listeners, .inl rfl, rfl⟩
  | idle untold a => exact ⟨e, e.listeners, .inl rfl, rfl⟩
  | @changed e' revises reason told a notices => exact ⟨e', _, .inr revises, rfl⟩
  | @stopped e' leaves error => exact ⟨e', e'.listeners, .inr (revises_of_leaves leaves), rfl⟩

end Editor

end DynamicForm
