import DynamicForm.Proofs.Check.Faults
import DynamicForm.Proofs.Form.Construction
import DynamicForm.Proofs.Form.Relabelling

/-!
# Patterns that are refused

The author of a form may write anything as a pattern. A pattern that cannot be read is no constraint:
the field is checked as if it had none, and forms are built and filled in as if it had none. With a
few patterns, reading meets a fault instead. It is not caught, so that such a field has no checks
and its form is not built.

- `Field.refused_checks`: the checks of a field whose pattern is refused.
- `Form.build_lenient`: patterns that are ignored make no difference to the form.
- `Form.refused_pattern` puts the two together.
-/

namespace DynamicForm

/-- Why a pattern is refused, if it is. -/
def Pattern.refusal? (source : String) : Option Refusal :=
  match compile source with
  | .ok _ => none
  | .error r => some r

theorem Pattern.compile_of_refusal {source : String} {r : Refusal} (h : refusal? source = some r) :
    compile source = .error r := by
  unfold refusal? at h
  split at h
  · cases h
  · next heq => rw [heq, Option.some.inj h]

namespace Field

variable {f : Field} {source : String} {r : Pattern.Refusal}

/-- The field without its pattern. -/
def withoutPattern (f : Field) : Field :=
  { f with validation := f.validation.map fun c => { c with pattern := none } }

/-- The field without its pattern when that is ignored, and as it is otherwise. -/
def lenient (f : Field) : Field := if f.ignoredPattern.isSome then f.withoutPattern else f

theorem pattern?_withoutPattern (f : Field) : f.withoutPattern.pattern? = none := by
  have hnone : f.withoutPattern.constraints.pattern = none := by
    unfold constraints withoutPattern
    cases f.validation <;> rfl
  rw [pattern?, hnone]
  exact ite_self none

/-- The other checks do not depend on the pattern. -/
theorem plainChecks_withoutPattern (f : Field) : f.withoutPattern.plainChecks = f.plainChecks := by
  obtain ⟨id, type, label, key, placeholder, required, disabled, options, declaredDefault,
    validation, conditions, order⟩ := f
  cases validation <;> rfl

/-- Without a pattern there is nothing to compile, so no fault can be met. -/
theorem checks_withoutPattern (f : Field) : f.withoutPattern.checks = .ok f.plainChecks := by
  rw [checks_of_no_pattern (pattern?_withoutPattern f), plainChecks_withoutPattern]

/-! ## Refused patterns

Reading a pattern ends in one of three ways. It gives a program, it refuses the pattern as
malformed, which is caught and counts as no pattern, or it meets a fault that nobody catches. -/

/-- A pattern that is refused is not empty, so it counts for the kinds that have one. -/
theorem pattern?_of_refused (h : f.constraints.pattern = some source)
    (hs : Pattern.compile source = .error r) :
    f.pattern? = if f.type.hasPattern then some source else none := by
  have hne : source ≠ "" := by
    rintro rfl
    cases hs
  rw [pattern?, h, Option.filter_some, if_pos (decide_eq_true hne)]

/-- The refusal is caught, and the field goes without. -/
theorem checks_of_malformed (h : f.pattern? = some source)
    (hs : Pattern.compile source = .error .malformed) : f.checks = f.withoutPattern.checks := by
  rw [checks_withoutPattern, checks, patternCheck?, h]
  dsimp only
  rw [hs]
  exact congrArg Except.ok (List.append_nil _)

theorem checks_of_fault {e : Fault} (h : f.pattern? = some source)
    (hs : Pattern.compile source = .error (.fault e)) : f.checks = .error e := by
  rw [checks, patternCheck?, h]
  dsimp only
  rw [hs]
  rfl

/-- **Refused patterns.** The checks are those of the field without its pattern, or, where a pattern
counts and reading it meets a fault, there are none and the fault is met. -/
theorem refused_checks (h : f.constraints.pattern = some source)
    (hs : Pattern.compile source = .error r) :
    (∃ e, f.type.hasPattern = true ∧ r = .fault e ∧ f.checks = .error e) ∨
    (∀ e, f.type.hasPattern = true → r ≠ .fault e) ∧ f.checks = f.withoutPattern.checks := by
  have hpattern := pattern?_of_refused h hs
  cases hkind : f.type.hasPattern with
  | false =>
    rw [hkind] at hpattern
    refine .inr ⟨nofun, ?_⟩
    rw [checks_withoutPattern]
    exact checks_of_no_pattern hpattern
  | true =>
    rw [hkind] at hpattern
    cases r with
    | malformed => exact .inr ⟨nofun, checks_of_malformed hpattern hs⟩
    | fault e => exact .inl ⟨e, rfl, rfl, checks_of_fault hpattern hs⟩

/-! ## Ignored patterns

What is ignored can be left out of the definition. This is done to every field at once, so that it
can be carried through a construction. -/

/-- A pattern is ignored when it cannot be read. -/
theorem isSome_ignoredPattern (h : f.ignoredPattern.isSome = true) :
    ∃ source, f.pattern? = some source ∧ Pattern.compile source = .error .malformed := by
  unfold ignoredPattern at h
  split at h
  · next hmap =>
    obtain ⟨source, hp, hc⟩ := Option.map_eq_some_iff.mp hmap
    exact ⟨source, hp, hc⟩
  · cases h

/-- A pattern that is ignored makes no difference to the checks. -/
theorem checks_lenient (f : Field) : f.lenient.checks = f.checks := by
  unfold lenient
  split
  · next h =>
    obtain ⟨source, hp, hc⟩ := isSome_ignoredPattern h
    exact (checks_of_malformed hp hc).symm
  · rfl

/-- Only the constraints of a field are touched. -/
theorem lenient_eq (f : Field) : ∃ validation, f.lenient = { f with validation := validation } := by
  unfold lenient
  split
  · exact ⟨_, rfl⟩
  · exact ⟨f.validation, rfl⟩

theorem relabels_lenient : Relabels lenient where
  key f := by
    obtain ⟨validation, heq⟩ := lenient_eq f
    rw [heq]
  conditions f := by
    obtain ⟨validation, heq⟩ := lenient_eq f
    rw [heq]

theorem order_lenient (f : Field) : f.lenient.order = f.order := by
  obtain ⟨validation, heq⟩ := lenient_eq f
  rw [heq]

theorem fresh_lenient (f : Field) (checks : List Check) :
    Control.fresh f.lenient checks = (Control.fresh f checks).relabel lenient := by
  have hvalue : f.lenient.initialValue = f.initialValue := by
    obtain ⟨validation, heq⟩ := lenient_eq f
    rw [heq]
    rfl
  rw [Control.fresh, hvalue]
  rfl

end Field

/-! ## Forms

A construction sorts the fields, makes controls of them and settles these. Each of the three does
the same with the patterns that are ignored and without them. -/

/-- The definition without the patterns that are ignored. -/
def Definition.lenient (d : Definition) : Definition := { d with fields := d.fields.map .lenient }

/-- The form without the patterns that are ignored: values, what is shown and the checks stay. -/
def Form.lenient (form : Form) : Form :=
  { form with
    definition := form.definition.lenient
    controls := form.controls.map (Control.relabel .lenient) }

/-- Sorting looks at the numbers of the fields only. -/
theorem Definition.sortedFields_lenient (d : Definition) :
    d.lenient.sortedFields = d.sortedFields.map .lenient := by
  refine (List.map_mergeSort fun f _ g _ => ?_).symm
  rw [Field.order_lenient, Field.order_lenient]

namespace Form

variable {d : Definition} {f : Field} {source : String} {r : Pattern.Refusal}

/-- The walk meets the same fault at the same field, or none. -/
theorem controlsFor_lenient (formKey : String) (seen : List String) (fs : List Field) :
    (controlsFor formKey seen (fs.map .lenient)).2 =
      (controlsFor formKey seen fs).2.map (List.map (Control.relabel .lenient)) := by
  induction fs generalizing seen with
  | nil => rfl
  | cons f rest ih =>
    rw [List.map_cons, controlsFor, controlsFor, Field.relabels_lenient.key, Field.checks_lenient]
    split
    · exact ih seen
    · cases f.checks with
      | error e => rfl
      | ok checks =>
        dsimp only
        rw [ih, Field.fresh_lenient]
        cases (controlsFor formKey (f.key :: seen) rest).2 <;> rfl

/-- **Ignored patterns** make no difference: the definition without them gives the same form, without
them, or meets the same fault. -/
theorem build_lenient (d : Definition) (initial : Record) :
    (build d.lenient initial).2 = (build d initial).2.map lenient := by
  unfold build
  dsimp only
  rw [Definition.sortedFields_lenient, show d.lenient.key = d.key from rfl, controlsFor_lenient]
  cases (controlsFor d.key [] d.sortedFields).2 with
  | error e => rfl
  | ok cs =>
    have hstart : (cs.map (Control.relabel .lenient)).map (Control.patch initial) =
        (cs.map (Control.patch initial)).map (Control.relabel .lenient) := by
      rw [List.map_map, List.map_map]
      exact List.map_congr_left fun c _ =>
        (Control.relabel_patch Field.relabels_lenient initial c).symm
    have hsettle := Control.settle_relabel Field.relabels_lenient (cs.map (Control.patch initial))
    simp only [Except.map, hstart, hsettle]
    rcases Control.settle (cs.map (Control.patch initial)) with ⟨settled, _ | e⟩ <;> rfl

/-- A form is not built when a leading field has no checks. -/
theorem not_built_of_fault {e : Fault} (hf : f ∈ d.leadingFields) (h : f.checks = .error e)
    (initial : Record) : ∃ e', (build d initial).2 = .error e' := by
  cases hb : (build d initial).2 with
  | error e' => exact ⟨e', rfl⟩
  | ok form =>
    obtain ⟨checks, hchecks⟩ := (ready_of_build hb hf).checks
    cases h.symm.trans hchecks

/-- **Refused patterns.** A field with a pattern that cannot be compiled is checked as if it had
none, unless a pattern counts for its kind and reading it meets a fault. Then this fault is all there
is, and no form is built in which the field leads. Otherwise a form can be built with such patterns
if it can be built without them, and is the same form. -/
theorem refused_pattern (h : f.constraints.pattern = some source)
    (hs : Pattern.compile source = .error r) :
    (∀ e, f.checks = .error e ↔ f.type.hasPattern = true ∧ r = .fault e) ∧
    ((∃ checks, f.checks = .ok checks) → f.checks = f.withoutPattern.checks) ∧
    (∀ d e initial, f ∈ d.leadingFields → f.checks = .error e →
      ∃ e', (build d initial).2 = .error e') ∧
    ∀ d initial, (build d.lenient initial).2 = (build d initial).2.map lenient := by
  refine ⟨fun e => ?_, ?_, fun d e initial hf he => not_built_of_fault hf he initial,
    build_lenient⟩
  · rcases Field.refused_checks h hs with ⟨e', hkind, rfl, he'⟩ | ⟨hno, hchecks⟩
    · rw [he']
      simp [hkind]
    · rw [hchecks, Field.checks_withoutPattern]
      exact ⟨nofun, fun ⟨hkind, hr⟩ => absurd hr (hno e hkind)⟩
  · rintro ⟨checks, hok⟩
    rcases Field.refused_checks h hs with ⟨e', -, -, he'⟩ | ⟨-, hchecks⟩
    · cases he'.symm.trans hok
    · exact hchecks

/-- A field whose values have to match a pattern. -/
def codeField (source : String) : Field :=
  { id := "1", type := .text, label := "Code", key := "code"
    validation := some { maxLength := some 9, pattern := some source } }

/-- A form with such a field. -/
def codeForm (source : String) : Definition :=
  { name := "Codes", key := "codes", fields := [codeField source] }

/-- A group that is not closed is no constraint, and does not keep the form from being built. -/
theorem refused_pattern_unclosed :
    (codeField "([unclosed").checks = .ok [.maxLength 9 true] ∧
      ∃ form, (build (codeForm "([unclosed") []).2 = .ok form := by
  have hs : Pattern.compile "([unclosed" = .error .malformed :=
    Pattern.compile_of_refusal (by decide +kernel)
  obtain ⟨hfault, hsame, -, hbuild⟩ := refused_pattern (f := codeField "([unclosed") rfl hs
  constructor
  · cases hchecks : (codeField "([unclosed").checks with
    | error e => cases ((hfault e).mp hchecks).2
    | ok checks => rw [← hchecks, hsame ⟨checks, hchecks⟩, Field.checks_withoutPattern]; rfl
  · have hwithout : (build (codeForm "([unclosed").lenient []).2.toOption.isSome = true := by cbv
    rw [hbuild] at hwithout
    cases hb : (build (codeForm "([unclosed") []).2 with
    | error e =>
      rw [hb] at hwithout
      cases hwithout
    | ok form => exact ⟨form, rfl⟩

/-- **Not every refused pattern is ignored.** One that repeats more often than can be counted leaves
a field without checks and its form unbuilt. -/
theorem not_ignored_repeated :
    ¬(∀ (f : Field) (source : String) (r : Pattern.Refusal), f.constraints.pattern = some source →
      Pattern.compile source = .error r → f.checks = f.withoutPattern.checks) ∧
    ¬∃ form, (build (codeForm "x\x7b4294967295\x7d") []).2 = .ok form := by
  have hs : Pattern.compile "x\x7b4294967295\x7d" = .error (.fault .repetitionTooLarge) :=
    Pattern.compile_of_refusal (by decide +kernel)
  have hfault : (codeField "x\x7b4294967295\x7d").checks = .error .repetitionTooLarge :=
    Field.checks_of_fault rfl hs
  constructor
  · intro h
    have hsame := h (codeField "x\x7b4294967295\x7d") _ _ rfl hs
    rw [hfault, Field.checks_withoutPattern] at hsame
    cases hsame
  · rintro ⟨form, hb⟩
    have hleading : (codeForm "x\x7b4294967295\x7d").leadingFields =
        [codeField "x\x7b4294967295\x7d"] := by cbv
    obtain ⟨e, he⟩ := not_built_of_fault (hleading ▸ List.mem_singleton_self _) hfault []
    cases he.symm.trans hb

end Form

end DynamicForm
