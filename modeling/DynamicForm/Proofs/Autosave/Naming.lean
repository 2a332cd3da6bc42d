import DynamicForm.Proofs.Autosave.Completion
import DynamicForm.Proofs.Editor.Reachable

/-!
# Names that are missing

A form needs a name and a key. One that is nothing counts as missing like one that is blank, both
when the problems of the form are listed and when it is saved. A save without them is refused before
anything is asked for, and the refusal names just the problems with the metadata.

To list the problems a definition is taken from the editor first, and a definition has a name and a
key of its own. So the list can be had only if neither of them is nothing, and a refusal that would
name the problem is one that says that nothing is no text.

- `Editor.Named` holds of an editor whose metadata are texts or nothing.
- `Editor.Named.problems_cases`: the problems that are listed, or the reason why there is no list.
- `Autosaver.save_nameless`: what an explicit save without a name or a key does, in every run.
-/

namespace DynamicForm

open Autosaver (Action Orderly)

/-! ## Problems with the metadata -/

namespace Problem

/-- Whether the problem is one with the fields. -/
def isOfFields : Problem → Bool
  | .missingFormName => false
  | .missingFormKey => false
  | _ => true

/-- Whether a message is about the form itself. -/
def isOfForm (message : String) : Bool := "Form ".toList.isPrefixOf message.toList

/-- What a message is about can be seen from its first characters. -/
theorem isOfForm_append {s : String} (h : "Form ".toList.length ≤ s.toList.length) (t : String) :
    isOfForm (s ++ t) = isOfForm s := by
  rw [Bool.eq_iff_iff, isOfForm, isOfForm, List.isPrefixOf_iff_prefix, List.isPrefixOf_iff_prefix,
    String.toList_append]
  exact ⟨fun hp => List.prefix_of_prefix_length_le hp (List.prefix_append _ _) h,
    fun hp => hp.trans (List.prefix_append _ _)⟩

/-- Messages tell the problems with the fields from the others. -/
theorem isOfForm_message (p : Problem) : isOfForm p.message = !p.isOfFields := by
  unfold message
  cases p <;> simp only [String.append_assoc, isOfFields, Bool.not_true, Bool.not_false]
  case missingFormName | missingFormKey => decide +kernel
  all_goals exact (isOfForm_append (by decide +kernel) _).trans (by decide +kernel)

theorem all_when (b : Bool) (p : Problem) :
    (Problem.when b p).all isOfFields = (!b || p.isOfFields) := by
  cases b <;> simp [Problem.when]

end Problem

theorem Field.problems_isOfFields (before : List Field) (f : Field) :
    (f.problems before).all Problem.isOfFields = true := by
  unfold Field.problems
  split <;> simp only [List.all_append, List.all_cons, List.all_nil, Problem.all_when,
    Problem.isOfFields, Bool.or_true, Bool.and_true]

theorem Field.conditionProblems_isOfFields (keys : List String) (f : Field) (c : Condition) :
    (f.conditionProblems keys c).all Problem.isOfFields = true := by
  unfold Field.conditionProblems
  split
  · rfl
  · split <;> simp only [List.all_append, List.all_cons, List.all_nil, Problem.all_when,
      Problem.isOfFields, Bool.or_true, Bool.and_true]

/-- The problems of a definition are problems with its fields. -/
theorem Definition.problems_isOfFields (d : Definition) :
    d.problems.all Problem.isOfFields = true := by
  have hfields : ∀ fs before, (fieldProblems before fs).all Problem.isOfFields = true := by
    intro fs
    induction fs with
    | nil => exact fun _ => rfl
    | cons f rest ih =>
      intro before
      rw [fieldProblems, List.all_append, f.problems_isOfFields before, ih]
      rfl
  rw [problems, List.all_append, hfields, Bool.true_and]
  simp only [List.all_flatMap, Field.conditionProblems_isOfFields, List.all_eq_true, implies_true]

/-- The messages about the form are those about its metadata. -/
theorem Problem.filter_isOfForm {ofNames ofFields : List Problem}
    (hnames : ∀ p ∈ ofNames, p.isOfFields = false) (hfields : ofFields.all isOfFields = true) :
    ((ofNames ++ ofFields).map message).filter isOfForm = ofNames.map message := by
  rw [List.filter_map, List.filter_append, List.filter_eq_self.mpr, List.filter_eq_nil_iff.mpr,
    List.append_nil]
  · intro p hp
    rw [Function.comp_apply, isOfForm_message, List.all_eq_true.mp hfields p hp]
    exact Bool.false_ne_true
  · intro p hp
    rw [Function.comp_apply, isOfForm_message, hnames p hp]
    rfl

/-! ## Metadata -/

/-- Whether a name is missing: it is nothing, or blank. -/
def isUnnamed (name : Option String) : Bool := name.all Text.isBlankText

namespace Editor

variable {e : Editor} {name key description : Option String}

/-- The metadata are these texts, or nothing. -/
structure Named (e : Editor) (name key description : Option String) : Prop where
  name : e.name = name.elim .null .text
  key : e.key = key.elim .null .text
  description : e.description = description.elim .null .text

/-- What is told of an attribute that has to be a text and is nothing. -/
def untold (what : String) (s : Option String) : List Issue :=
  if s.isNone then [⟨[.key what], .notText⟩] else []

/-- The problems with the metadata. -/
def nameless (name key : Option String) : List Problem :=
  Problem.when (isUnnamed name) .missingFormName ++ Problem.when (isUnnamed key) .missingFormKey

theorem nameless_not_isOfFields (name key : Option String) :
    ∀ p ∈ nameless name key, p.isOfFields = false := by
  rw [nameless]
  cases isUnnamed name <;> cases isUnnamed key <;> decide

theorem isBlankName_elim (s : Option String) :
    isBlankName (s.elim .null .text) = .ok (isUnnamed s) := by
  cases s with
  | none => rfl
  | some s => exact isBlankName_eq s

theorem Named.nameProblems (h : e.Named name key description) :
    e.nameProblems = .ok (nameless name key) := by
  rw [Editor.nameProblems, h.name, h.key, isBlankName_elim, isBlankName_elim]
  rfl

/-- Whether there are names can be told. -/
theorem Named.hasNames (h : e.Named name key description) :
    e.hasNames = .ok (!isUnnamed name && !isUnnamed key) := by
  rw [Editor.hasNames, h.name, h.key, isBlankName_elim, isBlankName_elim]
  cases isUnnamed name <;> rfl

/-- **The snapshot** needs a name and a key, blank or not. -/
theorem Named.snapshot (h : e.Named name key description) :
    (name.isSome ∧ key.isSome) ∧ (∃ d, e.snapshot = .ok d) ∨
      ¬(name.isSome ∧ key.isSome) ∧
        e.snapshot = .bad (untold "name" name ++ untold "key" key) := by
  rw [Editor.snapshot, h.name, h.key, h.description]
  cases name <;> cases key <;> cases description
  case some.some.none | some.some.some => exact .inl ⟨⟨rfl, rfl⟩, _, rfl⟩
  all_goals exact .inr ⟨by simp, rfl⟩

/-- **Problems** are listed if the name and the key are texts, and then those with the metadata are
told as they should be. -/
theorem Named.problems_cases (h : e.Named name key description) :
    (name.isSome ∧ key.isSome) ∧ (∃ ofFields : List Problem,
      e.problems = .ok (nameless name key ++ ofFields) ∧
        ofFields.all Problem.isOfFields = true) ∨
      ¬(name.isSome ∧ key.isSome) ∧
        e.problems = .error (.unreadable (untold "name" name ++ untold "key" key)) := by
  rw [Editor.problems, h.nameProblems]
  refine h.snapshot.imp (And.imp_right ?_) (And.imp_right fun hbad => ?_)
  · rintro ⟨d, hd⟩
    rw [hd]
    exact ⟨d.problems, rfl, d.problems_isOfFields⟩
  · rw [hbad]
    rfl

/-- The problems with the metadata are among those that are listed. -/
theorem message_mem_iff {ofFields : List Problem} (h : ofFields.all Problem.isOfFields = true) :
    let messages := (nameless name key ++ ofFields).map Problem.message
    ("Form name is required" ∈ messages ↔ isUnnamed name = true) ∧
      ("Form key is required" ∈ messages ↔ isUnnamed key = true) := by
  intro messages
  have hmem : ∀ m, Problem.isOfForm m = true →
      (m ∈ messages ↔ m ∈ (nameless name key).map Problem.message) := by
    intro m hm
    rw [← Problem.filter_isOfForm (nameless_not_isOfFields name key) h, List.mem_filter,
      and_iff_left hm]
  rw [hmem _ (by decide +kernel), hmem _ (by decide +kernel), nameless]
  cases isUnnamed name <;> cases isUnnamed key <;> decide +kernel

/-- Problems are listed exactly if the name and the key are texts. -/
theorem Named.listed_iff (h : e.Named name key description) :
    (∃ problems, e.problems = .ok problems) ↔ name.isSome ∧ key.isSome := by
  rcases h.problems_cases with ⟨hlistable, ofFields, hlisted, -⟩ | ⟨hnot, herror⟩
  · exact ⟨fun _ => hlistable, fun _ => ⟨_, hlisted⟩⟩
  · refine ⟨?_, fun hlistable => absurd hlistable hnot⟩
    rintro ⟨problems, hlisted⟩
    cases hlisted.symm.trans herror

/-- A list says of the name and the key what they lack. -/
theorem Named.mem_listed (h : e.Named name key description) {problems : List Problem}
    (hlisted : e.problems = .ok problems) :
    ("Form name is required" ∈ problems.map Problem.message ↔ isUnnamed name = true) ∧
      ("Form key is required" ∈ problems.map Problem.message ↔ isUnnamed key = true) := by
  rcases h.problems_cases with ⟨-, ofFields, hok, hfields⟩ | ⟨-, herror⟩
  · rw [Except.ok.inj (hlisted.symm.trans hok)]
    exact message_mem_iff hfields
  · cases hlisted.symm.trans herror

end Editor

/-! ## Saves -/

namespace Autosaver

/-- Why a save without a name or a key is refused. -/
def refusal (e : Editor) : JobFailure :=
  match e.problems with
  | .ok problems =>
    .service (.error (.schema ((problems.map Problem.message).filter Problem.isOfForm)))
  | .error error => .edit error

variable {s : Autosaver} {e : Editor} {id : Nat} {name key description : Option String}

/-- A refusal names the problems with the metadata, if a definition can be taken. -/
theorem refusal_eq (h : e.Named name key description) :
    refusal e = match e.snapshot with
      | .ok _ => .service (.error (.schema ((Editor.nameless name key).map Problem.message)))
      | .bad issues => .edit (.unreadable issues) := by
  rw [refusal, Editor.problems, h.nameProblems]
  cases e.snapshot with
  | bad issues => rfl
  | ok d =>
    have hfilter := Problem.filter_isOfForm (Editor.nameless_not_isOfFields name key)
      d.problems_isOfFields
    exact congrArg (fun messages => JobFailure.service (.error (.schema messages))) hfilter

theorem refusal_of_listable (h : e.Named name key description)
    (hlistable : name.isSome ∧ key.isSome) :
    refusal e = .service (.error (.schema ((Editor.nameless name key).map Problem.message))) := by
  rw [refusal_eq h]
  rcases h.snapshot with ⟨-, d, hd⟩ | ⟨hnot, -⟩
  · rw [hd]
  · exact absurd hlistable hnot

theorem refusal_of_not_listable (h : e.Named name key description)
    (hnot : ¬(name.isSome ∧ key.isSome)) :
    refusal e = .edit (.unreadable (Editor.untold "name" name ++ Editor.untold "key" key)) := by
  rw [refusal_eq h]
  rcases h.snapshot with ⟨hlistable, -⟩ | ⟨-, hbad⟩
  · exact absurd hlistable hnot
  · rw [hbad]

/-- An explicit save without a name or a key ends at once. -/
theorem begin_nameless (hjob : s.job? id = some ⟨id, .explicit, .queued⟩)
    (h : s.editor.Named name key description)
    (hmissing : (isUnnamed name || isUnnamed key) = true) :
    s.begin id = { s with timer := s.timer.cancel }.finish ⟨id, .explicit, .queued⟩
      (.failed (refusal s.editor)) [.notify ⟨.error, "Form name and key are required"⟩] := by
  have hnames : s.editor.hasNames = .ok false := by
    rw [h.hasNames, ← Bool.not_or, hmissing]
    rfl
  unfold begin
  rw [hjob]
  simp only
  unfold beginExplicit
  simp only [hnames, h.nameProblems, refusal_eq h]
  cases s.editor.snapshot <;> rfl

/-- The save asks for nothing, neither then nor later. -/
theorem storedFor_nameless (ho : s.Orderly) (hjob : s.job? id = some ⟨id, .explicit, .queued⟩)
    (h : s.editor.Named name key description)
    (hmissing : (isUnnamed name || isUnnamed key) = true) (start : Nat)
    (after : List (Nat × Action)) :
    (s.course ((start, .begin id) :: after)).storedFor id = [] := by
  have hbegin := begin_nameless hjob h hmissing
  have hspent : (s.begin id).saver.Spent id := by
    rw [hbegin]
    refine ⟨ho.lt _ (job?_eq_some hjob).1, fun j hj => ?_⟩
    change ({ s with timer := s.timer.cancel }.dropJob id).job? id = some j at hj
    rw [job?_dropJob_self] at hj
    cases hj
  have hlater := hspent.course (ho.step start (.begin id)) after
  rw [storedFor_course_cons, step, hlater, hbegin]
  rfl

/-- **Saving without names.** Take an editor at any point of any run, with metadata that are texts or
nothing. Its problems are listed exactly if the name and the key are texts, and then the list says
that one of them is required exactly if it is blank. An explicit save with one of them missing
cancels the timer, tells of one error, and ends without asking for the storage, then or later. What
it is refused with is the list of just the problems with the metadata, or the report of what is
nothing. -/
theorem save_nameless (e : Editor) (delay : Option Nat) (checksRemotely : Bool)
    (before : List (Nat × Action))
    (hjob : ((watch e delay checksRemotely).course before).saver.job? id =
      some ⟨id, .explicit, .queued⟩)
    (h : ((watch e delay checksRemotely).course before).saver.editor.Named name key description)
    (start : Nat) (after : List (Nat × Action)) :
    let s := ((watch e delay checksRemotely).course before).saver
    let listable := name.isSome ∧ key.isSome
    ((∃ problems, s.editor.problems = .ok problems) ↔ listable) ∧
    (∀ problems, s.editor.problems = .ok problems →
      ("Form name is required" ∈ problems.map Problem.message ↔ isUnnamed name = true) ∧
      ("Form key is required" ∈ problems.map Problem.message ↔ isUnnamed key = true)) ∧
    s.editor.hasNames = .ok (!isUnnamed name && !isUnnamed key) ∧
    (s.editor.hasNames = .ok false →
      (s.begin id).saver = { s with timer := s.timer.cancel }.dropJob id ∧
      (s.begin id).effects = [.notify ⟨.error, "Form name and key are required"⟩,
        .finished id (.failed (refusal s.editor))] ∧
      (s.course ((start, .begin id) :: after)).storedFor id = []) ∧
    (listable → refusal s.editor =
      .service (.error (.schema ((Editor.nameless name key).map Problem.message)))) ∧
    (¬listable → refusal s.editor =
      .edit (.unreadable (Editor.untold "name" name ++ Editor.untold "key" key))) := by
  intro s listable
  have ho : s.Orderly := (Orderly.watch e delay checksRemotely).course _
  refine ⟨h.listed_iff, fun problems => h.mem_listed, h.hasNames, fun hnames => ?_,
    refusal_of_listable h, refusal_of_not_listable h⟩
  -- the program asks for both names at once, so that one of them is enough to stop the save
  have hmissing : (isUnnamed name || isUnnamed key) = true := by
    rw [h.hasNames, ← Bool.not_or, Except.ok.injEq, Bool.not_eq_false'] at hnames
    exact hnames
  have hbegin := begin_nameless hjob h hmissing
  refine ⟨?_, ?_, storedFor_nameless ho hjob h hmissing start after⟩
  · rw [hbegin]
    rfl
  · rw [hbegin]
    rfl

/-- An editor of a form whose name is blank. -/
def blank : Editor := { Ledger.edited with name := .text " " }

/-- The save of a form whose name is blank. -/
theorem save_nameless_blank :
    (((watch blank none true).course asking).saver.begin 0).effects =
      [.notify ⟨.error, "Form name and key are required"⟩,
        .finished 0 (.failed (.service (.error (.schema ["Form name is required"]))))] := by
  have hnamed : ((watch blank none true).course asking).saver.editor.Named (some " ") (some "k")
      none := ⟨rfl, rfl, rfl⟩
  have hjob : ((watch blank none true).course asking).saver.job? 0 =
      some ⟨0, .explicit, .queued⟩ := rfl
  obtain ⟨-, -, hnames, hrefused, hrefusal, -⟩ :=
    save_nameless blank none true asking hjob hnamed 0 []
  have hblank : isUnnamed (some " ") = true := by decide +kernel
  have hkey : isUnnamed (some "k") = false := by decide +kernel
  rw [hblank, Bool.not_true, Bool.false_and] at hnames
  obtain ⟨-, heffects, -⟩ := hrefused hnames
  rw [heffects, hrefusal ⟨rfl, rfl⟩, Editor.nameless, hblank, hkey]
  rfl

/-- **Not every list can be had**: the name of the form has been taken away, and the problem of that
cannot be told. -/
theorem not_listed_nameless :
    ¬∀ d e name key description, Editor.Reachable d e → Editor.Named e name key description →
      ∃ problems, e.problems = .ok problems ∧
        ("Form name is required" ∈ problems.map Problem.message ↔ isUnnamed name = true) := by
  intro h
  let edited := ((Editor.load (Ledger.renamed "Old")).perform
    (.updateMetadata [("name", .null)])).editor
  have hreachable : Editor.Reachable (Ledger.renamed "Old") edited :=
    .call (.perform (.updateMetadata [("name", .null)])) (.load [])
  have hnamed : edited.Named none (some "k") none := ⟨rfl, rfl, rfl⟩
  obtain ⟨problems, hlisted, -⟩ := h _ edited none (some "k") none hreachable hnamed
  rcases hnamed.problems_cases with ⟨⟨hname, -⟩, -⟩ | ⟨-, herror⟩
  · cases hname
  · cases hlisted.symm.trans herror

end Autosaver

end DynamicForm
