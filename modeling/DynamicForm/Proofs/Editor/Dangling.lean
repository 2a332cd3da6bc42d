import DynamicForm.Proofs.Editor.Reachable
import DynamicForm.Proofs.Form.Recollection

/-!
# References that lead nowhere

A field can be deleted while conditions refer to it. An editor lists such references, a check of the
definition reports them among other problems, and a form tests conditions without asking whether
there is a field. All three mean the same.

- `Definition.problems_references`: what a check reports of references.
- `Form.Fits.conceals`: a form does not show a field with such a reference.
- `Editor.danglingReferences_agree`: both, for the definition that is taken from an editor.
-/

namespace DynamicForm

/-! ## Reports

Each of the two walks over the fields reports other problems besides. The references are what is
left of the reports when the others are taken out, and the order of the reports is that of the walk.
-/

/-- The problem is a reference to a field that does not exist. -/
def Problem.isReference : Problem → Bool
  | .danglingReference _ _ => true
  | _ => false

namespace Problem

/-- The problem that a reference to a missing field is. -/
def ofReference (r : String × String) : Problem := .danglingReference r.1 r.2

/-- Problems of another kind are left out, whether they are reported or not. -/
theorem filter_when {b : Bool} {p : Problem} (h : p.isReference = false) :
    (when b p).filter isReference = [] := by
  cases b <;> simp [when, h]

end Problem

namespace Field

/-- The references of a field to keys that are not among these. -/
def references (keys : List String) (f : Field) : List (String × String) :=
  (f.conditionList.filter fun c => c.fieldKey ≠ "" && !keys.contains c.fieldKey).map fun c =>
    (f.key, c.fieldKey)

/-- Nothing that a field lacks by itself is a reference. -/
theorem filter_problems (before : List Field) (f : Field) :
    (f.problems before).filter Problem.isReference = [] := by
  have hkey : (if Text.isBlankText f.key then [Problem.emptyKey (before.length + 1)]
      else Problem.when (before.any fun g => g.key == f.key) (.duplicateKey f.key)).filter
        Problem.isReference = [] := by
    split
    · rfl
    · exact Problem.filter_when rfl
  rw [problems, List.filter_append, List.filter_append, List.filter_append, hkey,
    Problem.filter_when rfl, Problem.filter_when rfl, Problem.filter_when rfl]
  rfl

/-- **One condition.** A reference of a field to itself is not one to a missing field, since the field
is there. -/
theorem filter_conditionProblems {keys : List String} {f : Field} (hf : f.key ∈ keys)
    (c : Condition) : (f.conditionProblems keys c).filter Problem.isReference =
      if c.fieldKey ≠ "" && !keys.contains c.fieldKey then [.danglingReference f.key c.fieldKey]
      else [] := by
  have hvalue : (Problem.when (c.needsValue && c.value.isNull)
      (.missingValue f.key c.operator)).filter Problem.isReference = [] := Problem.filter_when rfl
  unfold conditionProblems
  by_cases hnamed : c.fieldKey = ""
  · simp [hnamed, Problem.isReference]
  · rw [if_neg hnamed, List.filter_append, hvalue, List.append_nil]
    by_cases hself : c.fieldKey = f.key
    · simp [hself, hf, Problem.isReference]
    · cases keys.contains c.fieldKey <;>
        simp [hself, hnamed, Problem.when, Problem.isReference]

/-- **The conditions of a field**, one after the other. -/
theorem filter_conditionList {keys : List String} {f : Field} (hf : f.key ∈ keys) :
    (f.conditionList.flatMap (f.conditionProblems keys)).filter Problem.isReference =
      (f.references keys).map Problem.ofReference := by
  rw [references]
  induction f.conditionList with
  | nil => rfl
  | cons c rest ih =>
    rw [List.flatMap_cons, List.filter_append, ih, filter_conditionProblems hf, List.filter_cons]
    split <;> rfl

end Field

namespace Definition

variable {d : Definition}

/-- The first walk, over the fields themselves, finds no references. -/
theorem filter_fieldProblems (before fs : List Field) :
    (fieldProblems before fs).filter Problem.isReference = [] := by
  induction fs generalizing before with
  | nil => rfl
  | cons f rest ih => rw [fieldProblems, List.filter_append, Field.filter_problems, ih, List.nil_append]

/-- The references of a definition to missing fields. -/
def references (d : Definition) : List (String × String) :=
  d.fields.flatMap (Field.references d.fieldKeys)

/-- **Reports.** A check reports each reference to a missing field, in order and as often as it
occurs. -/
theorem problems_references (d : Definition) :
    d.problems.filter Problem.isReference = d.references.map Problem.ofReference := by
  have hkeys : ∀ f ∈ d.fields, f.key ∈ d.fieldKeys := fun f hf => List.mem_map_of_mem hf
  rw [problems, List.filter_append, filter_fieldProblems, List.nil_append, references,
    List.filter_flatMap, List.map_flatMap]
  exact List.flatMap_congr fun f hf => Field.filter_conditionList (hkeys f hf)

/-- A key that occurs once is that of one field. -/
theorem eq_of_count_eq_one {f g : Field} (hone : d.fieldKeys.count f.key = 1) (hf : f ∈ d.fields)
    (hg : g ∈ d.fields) (hk : g.key = f.key) : g = f := by
  rw [List.count_eq_countP, fieldKeys, List.countP_map, List.countP_eq_length_filter,
    List.length_eq_one_iff] at hone
  obtain ⟨only, honly⟩ := hone
  have hfound : ∀ h ∈ d.fields, h.key = f.key → h = only := by
    intro h hh hk
    have hmem : h ∈ d.fields.filter ((· == f.key) ∘ Field.key) :=
      List.mem_filter.mpr ⟨hh, beq_iff_eq.mpr hk⟩
    rwa [honly, List.mem_singleton] at hmem
  rw [hfound g hg hk, hfound f hf rfl]

theorem mem_references {key target : String} : (key, target) ∈ d.references ↔
    ∃ f ∈ d.fields, f.key = key ∧
      ∃ c ∈ f.conditionList, c.fieldKey = target ∧ target ≠ "" ∧ target ∉ d.fieldKeys := by
  simp only [references, Field.references, List.mem_flatMap, List.mem_map, List.mem_filter,
    Prod.mk.injEq, Bool.and_eq_true, decide_eq_true_eq, Bool.not_eq_true', List.contains_eq_mem,
    decide_eq_false_iff_not]
  constructor
  · rintro ⟨f, hf, c, ⟨hc, hnamed, hmissing⟩, rfl, rfl⟩
    exact ⟨f, hf, rfl, c, hc, rfl, hnamed, hmissing⟩
  · rintro ⟨f, hf, rfl, c, hc, rfl, hnamed, hmissing⟩
    exact ⟨f, hf, c, ⟨hc, hnamed, hmissing⟩, rfl, rfl⟩

end Definition

/-! ## Forms

A form does not know of references. It tests a condition by looking up a value, and what is not
there makes the condition false; that a form agrees with itself then hides the field, whatever other
conditions it has. -/

namespace Form

variable {d : Definition} {form : Form}

/-- The form shows nothing of the key: the field is hidden, fails nothing, and is in no record that
a submission gives. -/
structure Conceals (form : Form) (key : String) : Prop where
  hidden : form.isVisible key = .ok false
  fails_nothing : ∀ today, failuresOf today form key = .ok []
  unreported : ∀ today reports, form.failures today = .ok reports → key ∉ reports.map Prod.fst
  unanswered : ∀ today answers, (form.submit today).result = .ok answers → key ∉ answers.keys

/-- **A hidden control** conceals its key. -/
theorem Fits.conceals_of_hidden (h : form.Fits d) {c : Control} (hc : c ∈ form.controls)
    (hv : c.visible = false) : form.Conceals c.key := by
  have hhidden : ∀ e ∈ form.controls, e.key = c.key → e.visible = true → False := by
    intro e he hkey hshown
    rw [List.inj_on_of_nodup_map h.nodup_keys he hc hkey, hv] at hshown
    cases hshown
  refine ⟨?_, fun today => ?_, fun today reports hreports hkey => ?_,
    fun today answers hanswers hkey => ?_⟩
  · rw [h.isVisible_eq hc, hv]
  · rw [failuresOf, control, h.control?_eq hc]
    simp only [failures_of_exempt today (c := c) (by rw [hv, Bool.false_and])]
    rfl
  · obtain ⟨e, he, hsame, hshown⟩ := visible_of_failuresIn hreports hkey
    exact hhidden e he hsame hshown
  · rw [answers_of_submit hanswers, Record.keys, Form.answers, Control.valuesOf,
      List.map_map] at hkey
    obtain ⟨e, he, hsame⟩ := List.mem_map.mp hkey
    obtain ⟨he, hshown⟩ := List.mem_filter.mp he
    exact hhidden e he hsame hshown

/-- A condition on a key that the form does not have is false. -/
theorem Fits.holds_of_missing (h : form.Fits d) {c : Condition} (hc : c.fieldKey ∉ d.fieldKeys) :
    c.holds form.values = .ok false := by
  have hnone : form.values.get? c.fieldKey = none := by
    refine Record.get?_of_not_mem_keys fun hmem => hc ?_
    rw [← Definition.mem_keys_leadingFields, ← h.keys_eq]
    rw [Record.keys, values, Control.valuesOf, List.map_map] at hmem
    exact hmem
  rw [Condition.holds, hnone]

/-- **Forms.** A form that agrees with itself conceals a field with a reference to a missing one,
unless another field has the same key. -/
theorem Fits.conceals (h : form.Fits d) (ha : form.Agrees) {key target : String}
    (hr : (key, target) ∈ d.references) (hone : d.fieldKeys.count key = 1) :
    form.Conceals key := by
  obtain ⟨f, hf, rfl, t, ht, rfl, -, hmissing⟩ := Definition.mem_references.mp hr
  have hkey : f.key ∈ form.keys := by
    rw [h.keys_eq, Definition.mem_keys_leadingFields]
    exact List.mem_map_of_mem hf
  obtain ⟨c, hc, hsame⟩ := List.mem_map.mp hkey
  -- no other field has the key, so the control is that of the field with the condition
  have hfield : c.field = f :=
    Definition.eq_of_count_eq_one hone hf (h.leads hc).mem_fields hsame
  rw [← hsame]
  refine h.conceals_of_hidden hc (Bool.eq_false_iff.mpr fun hv => ?_)
  have hshown := ha.shown c hc
  rw [hv, hfield, Field.isShown, allHold_eq_true] at hshown
  cases (h.holds_of_missing hmissing).symm.trans (hshown t ht)

end Form

/-! ## Editors

The three descriptions meet in the definition that is taken from the editor: it has the same fields,
so the list of the editor is that of the definition. -/

namespace Editor

variable {e : Editor}

/-- The name and the key are texts, and so is the description unless there is none. -/
structure HasTexts (e : Editor) : Prop where
  name : ∃ s, e.name = .text s
  key : ∃ s, e.key = .text s
  description : e.description = .null ∨ ∃ s, e.description = .text s

/-- With texts for metadata a definition can be taken. -/
theorem HasTexts.holds (h : e.HasTexts) : ∃ d, e.Holds d := by
  obtain ⟨⟨name, hname⟩, ⟨key, hkey⟩, hdescription⟩ := h
  obtain ⟨description, hdescription⟩ : ∃ s : Option String, e.description = s.elim .null .text := by
    rcases hdescription with hnull | ⟨s, hs⟩
    · exact ⟨none, hnull⟩
    · exact ⟨some s, hs⟩
  exact ⟨⟨e.formId, name, key, description, e.fields⟩, rfl, hname, hkey, hdescription, rfl⟩

/-- **References that lead nowhere.** Let the metadata of an editor be texts. Then a definition can be
taken from it and its problems be listed; the references that it lists by themselves are just those
among the problems, in the same order and equally often. In every form of the definition, with any
initial values and after any calls that return, a field with such a reference is concealed, provided
that no other field has its key. -/
theorem danglingReferences_agree (h : e.HasTexts) :
    ∃ d found, e.snapshot = .ok d ∧ e.problems = .ok found ∧
      found.filter Problem.isReference = e.danglingReferences.map Problem.ofReference ∧
      ∀ key target, (key, target) ∈ e.danglingReferences →
        (e.fields.map Field.key).count key = 1 →
        ∀ initial form calls, (Form.build d initial).2 = .ok form → form.Returns calls →
          (form.run calls).Conceals key := by
  obtain ⟨d, hd⟩ := h.holds
  have hreferences : e.danglingReferences = d.references := by
    rw [Definition.references, Definition.fieldKeys, hd.fields]
    rfl
  refine ⟨d, _, snapshot_eq_ok.mpr hd, hd.problems, ?_, ?_⟩
  · rw [List.filter_append, List.filter_append, Problem.filter_when rfl, Problem.filter_when rfl,
      Definition.problems_references, hreferences]
    rfl
  · intro key target hr hone initial form calls hb hcalls
    rw [hreferences] at hr
    rw [← hd.fields] at hone
    have hreachable : Form.Reachable d form := .build hb
    have hagrees := (Form.Settled.build hb).agrees.run_returns hreachable hcalls
    exact (hreachable.run calls).fits.conceals hagrees hr hone

/-- Deletes two fields that others have conditions on. -/
def deletions : List Request :=
  [.perform (.deleteField 0), .perform (.deleteField 2), .perform (.addField (.text "text"))]

/-- Two fields are left without the ones that they refer to. The first of them stays hidden also when
it is given a value. -/
theorem danglingReferences_agree_deletions :
    let e := (load Form.branched).run deletions
    ∃ d found form, Reachable Form.branched e ∧ e.problems = .ok found ∧
      found.filter Problem.isReference =
        [.danglingReference "detail" "kind", .danglingReference "aside" "other"] ∧
      (Form.build d [("detail", .text "d")]).2 = .ok form ∧
      (form.run [.setValue "detail" (.text "x"), .submit ⟨2024, 1, 15⟩]).Conceals "detail" := by
  intro e
  have hreferences : e.danglingReferences = [("detail", "kind"), ("aside", "other")] := by cbv
  have hcount : (e.fields.map Field.key).count "detail" = 1 := by cbv
  have htexts : e.HasTexts := ⟨⟨"", by cbv⟩, ⟨"branched", by cbv⟩, .inl (by cbv)⟩
  have hrun : (e.snapshot.toExcept.toOption.any fun d =>
      (Form.build d [("detail", .text "d")]).2.toOption.any fun form =>
        (form.setValue "detail" (.text "x")).result.isOk) = true := by
    cbv
  obtain ⟨d, found, hd, hfound, hsame, hconceals⟩ := danglingReferences_agree htexts
  rw [hd] at hrun
  obtain ⟨form, hb, hset⟩ := Form.exists_of_build hrun
  refine ⟨d, found, form, (Reachable.load []).run deletions, hfound, ?_, hb, ?_⟩
  · rw [hsame, hreferences]
    rfl
  · exact hconceals "detail" "kind" (by rw [hreferences]; exact List.mem_cons_self) hcount _ form _
      hb ⟨Form.result_of_isOk hset, trivial, trivial⟩

end Editor

end DynamicForm
