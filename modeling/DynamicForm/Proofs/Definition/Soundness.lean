import DynamicForm.Definition.Problems
import Mathlib.Data.List.Nodup

/-!
# Sound definitions

Problems are found in two walks over the fields: each field is compared with those before it, and
each condition with the keys of all fields. A definition is sound when its fields as a whole are as
they should be, without regard to any order.

The two descriptions differ in more than words. The walk looks for a blank key before a repeated
one, and reports one of them; it compares the key of a condition with that of its own field and with
a list of keys, where `Field.Refers` speaks of another field. Where identities and keys are distinct
these come to the same, and where they are not a problem has been found already.

- `Field.Complete` says what a field needs by itself, `Field.Refers` what a condition needs in the
  definition, and `Definition.Sound` what the definition needs.
- `Definition.problems_eq_nil`: no problem is found exactly if the definition is sound.
-/

namespace DynamicForm

/-- A text with a character that is not blank. -/
def Text.Visible (s : String) : Prop := ∃ c ∈ s.toList, isBlank c = false

/-- The field has a key and a label, and options to choose from where it needs them. -/
structure Field.Complete (f : Field) : Prop where
  key : Text.Visible f.key
  label : Text.Visible f.label
  options : f.type = .select ∨ f.type = .radio → ∃ first others, f.options = some (first :: others)

/-- The condition of the field names the key of another one, and a value to compare with. -/
structure Field.Refers (d : Definition) (f : Field) (c : Condition) : Prop where
  named : c.fieldKey ≠ ""
  other : ∃ g ∈ d.fields, g.id ≠ f.id ∧ g.key = c.fieldKey
  value : c.operator ≠ .isEmpty → c.operator ≠ .isNotEmpty → c.value ≠ .null

/-- The identities and the keys are distinct, the fields are complete, and their conditions refer
to other fields. -/
structure Definition.Sound (d : Definition) : Prop where
  ids : (d.fields.map (·.id)).Nodup
  keys : d.fieldKeys.Nodup
  complete : ∀ f ∈ d.fields, f.Complete
  refers : ∀ f ∈ d.fields, ∀ c ∈ f.conditionList, f.Refers d c

/-! ## Parts

The tests of single fields and conditions, with their meaning. -/

/-- A text is blank when it has no character to see. -/
theorem Text.visible_iff {s : String} : Visible s ↔ isBlankText s = false := by
  simp [Visible, isBlankText]

/-- Nothing is reported exactly if there is no cause. -/
theorem Problem.when_eq_nil {b : Bool} {p : Problem} : Problem.when b p = [] ↔ b = false := by
  cases b <;> simp [Problem.when]

theorem Condition.needsValue_eq_true {c : Condition} :
    c.needsValue = true ↔ c.operator ≠ .isEmpty ∧ c.operator ≠ .isNotEmpty := by
  unfold needsValue
  cases c.operator <;> simp [Operator.needsValue]

namespace Field

/-- Options are asked for where a choice has to be made, and an empty list of them is as good as
none. -/
theorem lacksOptions_eq_false {f : Field} : f.lacksOptions = false ↔
    (f.type = .select ∨ f.type = .radio → ∃ first others, f.options = some (first :: others)) := by
  have htype : f.type.hasOptions = true ↔ f.type = .select ∨ f.type = .radio := by
    cases f.type <;> simp [FieldType.hasOptions]
  have hsome : (f.options.getD []).isEmpty = false ↔
      ∃ first others, f.options = some (first :: others) := by
    rcases f.options with _ | _ | ⟨first, others⟩ <;> simp
  rw [lacksOptions, Bool.and_eq_false_imp, htype, hsome]

/-- A field has no problems when it is complete and differs from those before it. A blank key is
looked for first, but one that is repeated is not blank either. -/
theorem problems_eq_nil {before : List Field} {f : Field} :
    f.problems before = [] ↔ f.Complete ∧ ∀ g ∈ before, g.id ≠ f.id ∧ g.key ≠ f.key := by
  have hkey : (if Text.isBlankText f.key then [Problem.emptyKey (before.length + 1)]
      else Problem.when (before.any fun g => g.key == f.key) (.duplicateKey f.key)) = [] ↔
        Text.Visible f.key ∧ ∀ g ∈ before, g.key ≠ f.key := by
    rw [Text.visible_iff]
    cases Text.isBlankText f.key <;> simp [Problem.when_eq_nil]
  have hid : Problem.when (before.any fun g => g.id == f.id) (.duplicateId f.id) = [] ↔
      ∀ g ∈ before, g.id ≠ f.id := by
    simp [Problem.when_eq_nil]
  rw [problems, List.append_eq_nil_iff, List.append_eq_nil_iff, List.append_eq_nil_iff, hid, hkey,
    Problem.when_eq_nil, Problem.when_eq_nil, lacksOptions_eq_false, ← Text.visible_iff]
  constructor
  · rintro ⟨⟨⟨hids, hvisible, hkeys⟩, hlabel⟩, hoptions⟩
    exact ⟨⟨hvisible, hlabel, hoptions⟩, fun g hg => ⟨hids g hg, hkeys g hg⟩⟩
  · rintro ⟨⟨hvisible, hlabel, hoptions⟩, hdiffers⟩
    exact ⟨⟨⟨fun g hg => (hdiffers g hg).1, hvisible, fun g hg => (hdiffers g hg).2⟩, hlabel⟩,
      hoptions⟩

/-- The problems of a condition; they depend on the other fields only through their keys. -/
theorem conditionProblems_eq_nil {keys : List String} {f : Field} {c : Condition} :
    f.conditionProblems keys c = [] ↔ c.fieldKey ≠ "" ∧ c.fieldKey ≠ f.key ∧ c.fieldKey ∈ keys ∧
      (c.operator ≠ .isEmpty → c.operator ≠ .isNotEmpty → c.value ≠ .null) := by
  have hvalue : (c.needsValue && c.value.isNull) = false ↔
      (c.operator ≠ .isEmpty → c.operator ≠ .isNotEmpty → c.value ≠ .null) := by
    have hnull : c.value.isNull = false ↔ c.value ≠ .null := by
      cases c.value <;> simp [Value.isNull]
    rw [Bool.and_eq_false_imp, Condition.needsValue_eq_true, hnull, and_imp]
  unfold conditionProblems
  by_cases hnamed : c.fieldKey = ""
  · simp [hnamed]
  · rw [if_neg hnamed, List.append_eq_nil_iff, Problem.when_eq_nil, hvalue]
    by_cases hself : c.fieldKey = f.key <;> simp [hself, hnamed, Problem.when_eq_nil]

end Field

/-! ## The whole

A field is compared with those before it only. That this compares any two fields is what the
induction shows: the fields that are still to come are compared with it in their turn. -/

namespace Definition

variable {d : Definition}

/-- The walk over the fields. Those that have been passed matter only by what the others may not
repeat. -/
theorem fieldProblems_eq_nil {before fs : List Field} :
    fieldProblems before fs = [] ↔ (∀ f ∈ fs, f.Complete) ∧ (fs.map (·.id)).Nodup ∧
      (fs.map (·.key)).Nodup ∧ ∀ g ∈ before, ∀ f ∈ fs, g.id ≠ f.id ∧ g.key ≠ f.key := by
  induction fs generalizing before with
  | nil => simp [fieldProblems]
  | cons f rest ih =>
    rw [fieldProblems, List.append_eq_nil_iff, Field.problems_eq_nil, ih]
    simp only [List.forall_mem_cons, List.map_cons, List.nodup_cons, List.mem_map, List.mem_append,
      List.mem_singleton]
    constructor
    -- the fields to come have been compared with this one, which has been passed by then
    · rintro ⟨⟨hf, hbefore⟩, hrest, hids, hkeys, hdiffers⟩
      have hown := hdiffers f (.inr rfl)
      refine ⟨⟨hf, hrest⟩, ⟨?_, hids⟩, ⟨?_, hkeys⟩, fun g hg => ⟨hbefore g hg, ?_⟩⟩
      · rintro ⟨g, hg, heq⟩
        exact (hown g hg).1 heq.symm
      · rintro ⟨g, hg, heq⟩
        exact (hown g hg).2 heq.symm
      · exact hdiffers g (.inl hg)
    -- a field that has been passed is one from before, or the one at the head
    · rintro ⟨⟨hf, hrest⟩, ⟨hid, hids⟩, ⟨hkey, hkeys⟩, hdiffers⟩
      refine ⟨⟨hf, fun g hg => (hdiffers g hg).1⟩, hrest, hids, hkeys, ?_⟩
      rintro g (hg | rfl) h hh
      · exact (hdiffers g hg).2 h hh
      · exact ⟨fun heq => hid ⟨h, hh, heq.symm⟩, fun heq => hkey ⟨h, hh, heq.symm⟩⟩

/-- Where identities and keys are distinct, a key other than that of a field is one of another
field. -/
theorem exists_other {f : Field} {key : String} (hids : (d.fields.map (·.id)).Nodup)
    (hkeys : d.fieldKeys.Nodup) (hf : f ∈ d.fields) :
    (∃ g ∈ d.fields, g.id ≠ f.id ∧ g.key = key) ↔ key ≠ f.key ∧ key ∈ d.fieldKeys := by
  constructor
  · rintro ⟨g, hg, hid, rfl⟩
    refine ⟨fun hkey => hid ?_, List.mem_map_of_mem hg⟩
    rw [List.inj_on_of_nodup_map hkeys hg hf hkey]
  · rintro ⟨hkey, hmem⟩
    obtain ⟨g, hg, rfl⟩ := List.mem_map.mp hmem
    refine ⟨g, hg, fun hid => hkey ?_, rfl⟩
    rw [List.inj_on_of_nodup_map hids hg hf hid]

/-- **Problems.** None is found exactly if the definition is sound. -/
theorem problems_eq_nil : d.problems = [] ↔ d.Sound := by
  rw [problems, List.append_eq_nil_iff, fieldProblems_eq_nil]
  simp only [List.flatMap_eq_nil_iff, Field.conditionProblems_eq_nil, List.not_mem_nil, false_imp_iff,
    imp_true_iff, and_true]
  constructor
  · rintro ⟨⟨hcomplete, hids, hkeys⟩, hconditions⟩
    refine ⟨hids, hkeys, hcomplete, fun f hf c hc => ?_⟩
    obtain ⟨hnamed, hother, hmem, hvalue⟩ := hconditions f hf c hc
    exact ⟨hnamed, (exists_other hids hkeys hf).mpr ⟨hother, hmem⟩, hvalue⟩
  · rintro ⟨hids, hkeys, hcomplete, hrefers⟩
    refine ⟨⟨hcomplete, hids, hkeys⟩, fun f hf c hc => ?_⟩
    obtain ⟨hnamed, hother, hvalue⟩ := hrefers f hf c hc
    obtain ⟨hself, hmem⟩ := (exists_other hids hkeys hf).mp hother
    exact ⟨hnamed, hself, hmem, hvalue⟩

end Definition

end DynamicForm
