import DynamicForm.Proofs.Definition.Soundness
import DynamicForm.Proofs.Form.Atomicity
import DynamicForm.Proofs.Form.Restoring

/-!
# Construction of forms

A form that is built from a sound definition leaves nothing out: no two fields share a key, and every
condition finds the value that it reads. Two things can keep a form from being built all the same, a
pattern that cannot be compiled, which is not the same as one that cannot be read, and a condition
that compares an integer without a nearest number.

- `Definition.Hinders` says what can keep a form from being built.
- `Form.build_cases`: a form is built, or a fault that hinders it is met.
- `Form.build_complete`: a form that is built from a sound definition is complete.
-/

namespace DynamicForm

/-- A fault that can keep a form from being built: that of a pattern, or that of a condition that
overflows on the value that its key starts with, or on null. -/
inductive Definition.Hinders (d : Definition) (initial : Record) : Fault → Prop where
  | pattern {f : Field} {e : Fault} : f ∈ d.fields → f.patternCheck? = .error e →
      Hinders d initial e
  | comparison {f : Field} {c : Condition} {v : Value} : f ∈ d.fields → c ∈ f.conditionList →
      (d.startingValues initial).get? c.fieldKey = some v →
      (c.overflows v = true ∨ c.overflows .null = true) → Hinders d initial .integerTooLarge

/-- The checks of the field can be compiled, and its conditions be tested on the values. -/
structure Field.Ready (f : Field) (values : Record) : Prop where
  checks : ∃ checks, f.checks = .ok checks
  shown : ∃ shown, f.isShown values = .ok shown

/-- The form has one control for each field, and a value under the key of each condition. -/
structure Form.Complete (d : Definition) (form : Form) : Prop where
  fields : form.fields.Perm d.fields
  values : ∀ f ∈ d.fields, ∀ c ∈ f.conditionList, ∃ v, form.getValue c.fieldKey = .ok v

namespace Form

variable {d : Definition} {form : Form} {initial : Record} {e : Fault}

/-! ## Faults

Building goes wrong in two places: where checks are compiled, and where conditions are tested for
the first time. Both faults can be traced back to a field of the definition. -/

/-- Of all checks only that of the pattern can fail to be compiled. -/
theorem patternCheck?_of_checks {f : Field} (h : f.checks = .error e) :
    f.patternCheck? = .error e := by
  unfold Field.checks at h
  cases hp : f.patternCheck? with
  | error e' =>
    rw [hp] at h
    exact congrArg Except.error (Except.error.inj h)
  | ok c =>
    rw [hp] at h
    cases h

/-- Controls are wanting only because of the checks of a field. -/
theorem controlsFor_fault {formKey : String} {seen : List String} {fs : List Field}
    (h : (controlsFor formKey seen fs).2 = .error e) : ∃ f ∈ fs, f.checks = .error e := by
  induction fs generalizing seen with
  | nil => cases h
  | cons f rest ih =>
    have hrest : ∀ {keys}, (controlsFor formKey keys rest).2 = .error e →
        ∃ g ∈ f :: rest, g.checks = .error e := by
      intro keys hk
      obtain ⟨g, hg, hchecks⟩ := ih hk
      exact ⟨g, List.mem_cons_of_mem f hg, hchecks⟩
    unfold controlsFor at h
    -- the field is passed over, or its checks or those of another field are wanting
    split at h
    · exact hrest h
    · cases hchecks : f.checks with
      | error e' =>
        rw [hchecks] at h
        obtain rfl := Except.error.inj h
        exact ⟨f, List.mem_cons_self, hchecks⟩
      | ok checks =>
        rw [hchecks] at h
        cases hothers : (controlsFor formKey (f.key :: seen) rest).2 with
        | error e' =>
          simp only [hothers] at h
          obtain rfl := Except.error.inj h
          exact hrest hothers
        | ok others =>
          simp only [hothers] at h
          cases h

/-- The controls that a form starts with, beside the leading fields. -/
theorem starting_controls {cs : List Control} (saved : Record)
    (hcs : (controlsFor d.key [] d.sortedFields).2 = .ok cs) :
    List.Forall₂ (fun f c => c.field = f ∧ c.value = f.startingValue saved) d.leadingFields
      (cs.map (Control.patch saved)) := by
  refine List.forall₂_map_right_iff.mpr ((controlsFor_leadingFields hcs).imp ?_)
  rintro f c ⟨checks, -, rfl⟩
  exact ⟨patch_field .., patch_fresh_value ..⟩

/-- What the first pass reads. -/
theorem valuesOf_starting_controls {cs : List Control} (saved : Record)
    (hcs : (controlsFor d.key [] d.sortedFields).2 = .ok cs) :
    Control.valuesOf (cs.map (Control.patch saved)) = d.startingValues saved := by
  have hstart := starting_controls saved hcs
  rw [Definition.startingValues]
  generalize cs.map (Control.patch saved) = es at hstart
  generalize d.leadingFields = fs at hstart
  induction hstart with
  | nil => rfl
  | cons hfield _ ih =>
    obtain ⟨rfl, hvalue⟩ := hfield
    simp only [Control.valuesOf, List.map_cons, Control.key, hvalue] at ih ⊢
    rw [ih]

theorem mem_fields_of_starting {cs : List Control} {saved : Record}
    (hcs : (controlsFor d.key [] d.sortedFields).2 = .ok cs) {c : Control}
    (hc : c ∈ cs.map (Control.patch saved)) : c.field ∈ d.fields := by
  obtain ⟨f, hf, rfl, -⟩ := exists_of_forall₂ (starting_controls saved hcs) hc
  exact (Definition.leads_of_mem hf).mem_fields

/-- **Building** gives a form or meets a fault that hinders it. -/
theorem build_cases (d : Definition) (initial : Record) :
    (∃ form, (build d initial).2 = .ok form) ∨
      ∃ e, (build d initial).2 = .error e ∧ d.Hinders initial e := by
  cases hcs : (controlsFor d.key [] d.sortedFields).2 with
  | error e =>
    obtain ⟨f, hf, hchecks⟩ := controlsFor_fault hcs
    refine .inr ⟨e, by simp only [build, hcs], .pattern ?_ (patternCheck?_of_checks hchecks)⟩
    exact List.mem_mergeSort.mp hf
  | ok cs =>
    rcases hs : Control.settle (cs.map (Control.patch initial)) with ⟨settled, _ | e⟩
    · refine .inl ⟨{ definition := d, initialValues := initial, controls := settled }, ?_⟩
      simp only [build, hcs, hs]
    · obtain ⟨rfl, c, hc, t, ht, v, hv, hoverflows⟩ := Control.settle_fault hs
      rw [valuesOf_starting_controls initial hcs] at hv
      refine .inr ⟨.integerTooLarge, by simp only [build, hcs, hs], ?_⟩
      exact .comparison (mem_fields_of_starting hcs hc) ht hv hoverflows

/-! ## What has been built

Whatever was built has got past both places. In a sound definition every field leads, so that this
is a statement about all fields. -/

/-- The leading fields of a form that has been built can be checked, and could be shown or hidden
when the first pass came to them. -/
theorem ready_of_build (hb : (build d initial).2 = .ok form) {f : Field}
    (hf : f ∈ d.leadingFields) : f.Ready (d.startingValues initial) := by
  have hfits := fits_of_build hb
  obtain ⟨cs, settled, hcs, hs, -⟩ := build_ok hb
  obtain ⟨first, hpass, -⟩ := Control.settle_first hs
  rw [valuesOf_starting_controls initial hcs] at hpass
  constructor
  · rw [← hfits.fields_eq] at hf
    obtain ⟨c, hc, rfl⟩ := List.mem_map.mp hf
    exact ⟨c.compiled, hfits.compiled hc⟩
  · have hstart := (starting_controls initial hcs).flip
    obtain ⟨c, hc, rfl, -⟩ := exists_of_forall₂ hstart hf
    obtain ⟨c', -, hrefresh⟩ := exists_of_forall₂ (Control.refreshAll_forall₂ hpass).flip hc
    rcases Control.refresh_cases hrefresh with ⟨hno, -⟩ | ⟨-, shown, hshown, -⟩
    · exact ⟨true, Field.isShown_of_not_hasConditions hno _⟩
    · exact ⟨shown, hshown⟩

/-- A key of the form has a value. -/
theorem getValue_of_mem {key : String} (h : key ∈ form.keys) :
    ∃ v, form.getValue key = .ok v := by
  obtain ⟨c, hc, rfl⟩ := List.mem_map.mp h
  obtain ⟨c', hc'⟩ : ∃ c', form.control? c.key = some c' :=
    Option.isSome_iff_exists.mp (List.find?_isSome.mpr ⟨c, hc, beq_self_eq_true _⟩)
  exact ⟨c'.value, by rw [getValue, control, hc']; rfl⟩

/-- With distinct keys no field is left out, and what conditions refer to is there. -/
theorem Fits.complete (h : form.Fits d) (hd : d.Sound) : form.Complete d where
  fields := by
    have hfields : form.fields = d.leadingFields := h.fields_eq
    rw [hfields]
    exact Definition.leadingFields_perm hd.keys
  values f hf c hc := by
    obtain ⟨g, hg, -, hk⟩ := (hd.refers f hf c hc).other
    refine getValue_of_mem ?_
    rw [h.keys_eq, Definition.mem_keys_leadingFields, ← hk]
    exact List.mem_map_of_mem hg

/-- **Sound definitions.** A definition has no problems exactly if it is sound. Every form that is
built from a sound definition has one control for each field and a value for each condition. It is
built unless a fault hinders it; and it is not built when a field has a pattern that cannot be
compiled, or conditions that cannot be tested on the values that the form starts with. -/
theorem build_complete (d : Definition) :
    (d.problems = [] ↔ d.Sound) ∧ (d.Sound → ∀ initial,
      (∀ form, (build d initial).2 = .ok form →
        form.Complete d ∧ ∀ f ∈ d.fields, f.Ready (d.startingValues initial)) ∧
      ((∃ form, (build d initial).2 = .ok form) ∨
        ∃ e, (build d initial).2 = .error e ∧ d.Hinders initial e)) := by
  refine ⟨Definition.problems_eq_nil, fun hd initial => ⟨fun form hb => ⟨?_, ?_⟩, ?_⟩⟩
  · exact (fits_of_build hb).complete hd
  · intro f hf
    exact ready_of_build hb ((Definition.leadingFields_perm hd.keys).mem_iff.mpr hf)
  · exact build_cases d initial

/-- A sound definition of which a form is built. -/
theorem build_complete_gated :
    gated.Sound ∧ ∃ form, (build gated []).2 = .ok form ∧ form.Complete gated := by
  obtain ⟨hproblems, hbuilt⟩ := build_complete gated
  have hsound : gated.Sound := hproblems.mp rfl
  have hbuild : (build gated []).2.toOption.any (fun _ => true) = true := by cbv
  obtain ⟨form, hb, -⟩ := exists_of_build hbuild
  exact ⟨hsound, form, hb, ((hbuilt hsound []).1 form hb).1⟩

/-- A field that is shown when the amount is a given number. -/
def matchedField (n : Int) : Field :=
  { reasonField with
    conditions := some [{ fieldKey := "amount", operator := .equals, value := .int n }] }

/-- A form that asks for an amount in words, and for a reason when it is a given number. -/
def matching (n : Int) : Definition :=
  { gated with fields := [{ amountField with type := .text }, matchedField n] }

theorem leadingFields_matching (n : Int) : (matching n).leadingFields = (matching n).fields := by
  cbv

/-- The first pass meets a fault when the number has no nearest one. -/
theorem isShown_matching {n : Int} (hn : (Binary64.ofInt? n).isNone = true) :
    (matchedField n).isShown ((matching n).startingValues []) = .error .integerTooLarge := by
  rw [Definition.startingValues, leadingFields_matching]
  refine allHold_cons_of_error ?_
  rw [Condition.holds, show Record.get? _ _ = some (.text "") from rfl]
  refine Condition.test_eq_error.mpr ⟨?_, rfl⟩
  rw [Condition.overflows, show (Value.int n).isTooLarge = true from hn, Bool.or_true]
  rfl

/-- **Not every sound definition has a form**: the number in a condition has no nearest one, and is
compared with the text that the other field starts with. -/
theorem not_built_matching :
    ¬∀ d : Definition, d.problems = [] →
      ∃ form, (build d []).2 = .ok form ∧ form.Complete d := by
  intro h
  obtain ⟨form, hb, -⟩ := h (matching (10 ^ 309)) rfl
  have hmem : matchedField (10 ^ 309) ∈ (matching (10 ^ 309)).leadingFields := by
    rw [leadingFields_matching]
    exact List.mem_cons_of_mem _ List.mem_cons_self
  obtain ⟨shown, hshown⟩ := (ready_of_build hb hmem).shown
  rw [isShown_matching (n := 10 ^ 309) (by decide +kernel)] at hshown
  cases hshown

end Form

end DynamicForm
