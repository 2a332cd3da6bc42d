import DynamicForm.Form.Basic
import DynamicForm.Proofs.Definition.Leading
import DynamicForm.Proofs.Form.Settling

/-!
# Reachable forms

A form is built from a definition and then only called. `Form.Reachable` holds of what any calls
leave behind, those included that are refused or that a fault interrupts; `Form.Settled` holds right
after a construction, a change of values or a reset that returned normally.

Settling, refusals and faults are out of account in `Form.Fits`: it says only what no call can
change. What depends on the last call, that is on whether the values have been settled, is left to
`Form.Settled`.

- `Form.Reachable.fits`: a reachable form has one control for every leading field of its definition,
  with the checks of that field, and the checks in force fit what is shown.
- `Form.Settled.agrees`: in a settled form what is shown agrees with the values.
-/

namespace DynamicForm

/-- A call of a form. -/
inductive Request where
  | setValue (key : String) (v : Value)
  | setValues (values : Record)
  | submit (today : Date)
  | reset (initial : Option Record)
  | subscribe (once : Bool)
  | unsubscribe (ticket : Nat)

namespace Form

variable {d : Definition} {form : Form}

/-- The form that a call leaves behind. -/
def after (form : Form) : Request → Form
  | .setValue key v => (form.setValue key v).form
  | .setValues values => (form.setValues values).form
  | .submit today => (form.submit today).form
  | .reset initial => (form.reset initial).form
  | .subscribe once => (form.subscribe once).2
  | .unsubscribe ticket => form.unsubscribe ticket

/-- What a construction and any calls leave behind. -/
inductive Reachable (d : Definition) : Form → Prop where
  | build {initial : Record} {form : Form} :
      (build d initial).2 = .ok form → Reachable d form
  | call {form : Form} (r : Request) : Reachable d form → Reachable d (form.after r)

/-- What a construction, a change of values or a reset leaves behind that returns normally. -/
inductive Settled (d : Definition) : Form → Prop where
  | build {initial : Record} {form : Form} : (build d initial).2 = .ok form → Settled d form
  | setValues {form : Form} (values : Record) : Reachable d form →
      (form.setValues values).result = .ok () → Settled d (form.setValues values).form
  | reset {form : Form} (initial : Option Record) : Reachable d form →
      (form.reset initial).result = .ok () → Settled d (form.reset initial).form

/-- Being settled is a matter of the last call, being reachable of all of them. -/
theorem Settled.reachable (h : Settled d form) : Reachable d form := by
  cases h with
  | build hb => exact .build hb
  | setValues values hr _ => exact hr.call (.setValues values)
  | reset initial hr _ => exact hr.call (.reset initial)

/-- Setting one value is setting several. -/
theorem Settled.setValue {key : String} {v : Value} (hr : Reachable d form)
    (h : (form.setValue key v).result = .ok ()) : Settled d (form.setValue key v).form :=
  .setValues [(key, v)] hr h

end Form

/-! ## Controls that serve a field

A control is changed in a few ways only, and none of them touches the field or the checks compiled
from it. The lemmas go through these ways one by one. -/

namespace Control

variable {f : Field} {c c' : Control}

/-- A control of a field, with the checks of the field, that is coherent. -/
structure Serves (f : Field) (c : Control) : Prop where
  field : c.field = f
  compiled : f.checks = .ok c.compiled
  coherent : c.Coherent

theorem Serves.fresh {checks : List Check} (h : f.checks = .ok checks) :
    Serves f (fresh f checks) :=
  ⟨rfl, h, rfl, fun _ => rfl⟩

/-- Whatever keeps the field, the checks and what is shown. -/
theorem Serves.of_eq (h : Serves f c) (hf : c'.field = c.field) (hcomp : c'.compiled = c.compiled)
    (hc : c'.checks = c.checks) (hv : c'.visible = c.visible) : Serves f c' where
  field := hf.trans h.field
  compiled := hcomp ▸ h.compiled
  coherent := ⟨by rw [hc, hv, hcomp, h.coherent.checks_eq], by rw [hf, hv]; exact h.coherent.visible⟩

/-- Assigning changes the value and the mark. -/
theorem Serves.assign (h : Serves f c) (values : Record) : Serves f (c.assign values) := by
  unfold Control.assign
  split
  · exact h.of_eq rfl rfl rfl rfl
  · exact h

theorem Serves.patch (h : Serves f c) (values : Record) : Serves f (c.patch values) := by
  unfold Control.patch
  split
  · exact h.of_eq rfl rfl rfl rfl
  · exact h

theorem Serves.touch (h : Serves f c) : Serves f c.touch := h.of_eq rfl rfl rfl rfl

/-- A reset shows the control again, with its checks, until the values have been settled. -/
theorem Serves.restart (h : Serves f c) : Serves f c.restart := by
  obtain rfl := h.field
  exact .fresh h.compiled

theorem Serves.refreshed (h : Serves f c) (hr : c.Refreshed c') : Serves f c' :=
  ⟨hr.field.trans h.field, hr.compiled ▸ h.compiled, hr.coherent h.coherent⟩

theorem serves_fields {fs : List Field} {cs : List Control} (h : List.Forall₂ Serves fs cs) :
    cs.map (·.field) = fs := by
  induction h with
  | nil => rfl
  | cons hc _ ih => rw [List.map_cons, hc.field, ih]

theorem serves_map {fs : List Field} {cs : List Control} (h : List.Forall₂ Serves fs cs)
    {g : Control → Control} (hg : ∀ f c, Serves f c → Serves f (g c)) :
    List.Forall₂ Serves fs (cs.map g) :=
  List.forall₂_map_right_iff.mpr (h.imp hg)

/-- Settling is done by refreshes, and these keep what a control serves. -/
theorem serves_settle {fs : List Field} {cs : List Control} (h : List.Forall₂ Serves fs cs) :
    List.Forall₂ Serves fs (settle cs).1 := by
  have hs := settle_refreshed cs
  generalize (settle cs).1 = done at hs
  induction h generalizing done with
  | nil =>
    cases hs
    exact .nil
  | cons hserves _ ih =>
    cases hs with
    | cons hr hrest => exact .cons (hserves.refreshed hr) (ih _ hrest)

end Control

namespace Form

variable {d : Definition} {form : Form}

/-! ## Construction

A walk over the fields keeps a list of the keys that it has seen, and passes over a field whose key
is among them. That leaves the leading fields, in the order in which they are shown. -/

/-- The controls that are built are fresh ones of the fields whose keys have not been seen. -/
theorem controlsFor_fresh {formKey : String} {seen : List String} {fs : List Field}
    {cs : List Control} (h : (controlsFor formKey seen fs).2 = .ok cs) :
    List.Forall₂ (fun f c => ∃ checks, f.checks = .ok checks ∧ c = Control.fresh f checks)
      ((Field.firstByKey fs).filter fun f => f.key ∉ seen) cs := by
  induction fs generalizing seen cs with
  | nil =>
    obtain rfl := Except.ok.inj h
    exact .nil
  | cons f rest ih =>
    unfold controlsFor at h
    rw [Field.firstByKey, List.filter_cons, List.filter_filter]
    by_cases hf : f.key ∈ seen
    · -- the field is left out on both sides
      rw [if_pos (by simpa using hf)] at h
      rw [if_neg (by simpa using hf)]
      convert ih h using 2
      funext g
      by_cases hg : g.key ∈ seen <;> by_cases hk : g.key = f.key <;> simp_all
    · rw [if_neg (by simpa using hf)] at h
      rw [if_pos (by simpa using hf)]
      cases hchecks : f.checks with
      -- checks that cannot be compiled leave no controls, neither here nor further on
      | error e =>
        rw [hchecks] at h
        cases h
      | ok checks =>
        rw [hchecks] at h
        cases hrest : (controlsFor formKey (f.key :: seen) rest).2 with
        | error e =>
          simp only [hrest] at h
          cases h
        | ok others =>
          simp only [hrest] at h
          obtain rfl := Except.ok.inj h
          refine .cons ⟨checks, hchecks, rfl⟩ ?_
          convert ih hrest using 2
          funext g
          by_cases hg : g.key ∈ seen <;> by_cases hk : g.key = f.key <;> simp_all

/-- The controls of a definition, one for every leading field. -/
theorem controlsFor_leadingFields {cs : List Control}
    (h : (controlsFor d.key [] d.sortedFields).2 = .ok cs) :
    List.Forall₂ (fun f c => ∃ checks, f.checks = .ok checks ∧ c = Control.fresh f checks)
      d.leadingFields cs := by
  have hfresh := controlsFor_fresh h
  rwa [List.filter_eq_self.mpr fun f _ => by simp] at hfresh

/-- **What a construction does** when it returns. -/
theorem build_ok {initial : Record} (h : (build d initial).2 = .ok form) :
    ∃ cs settled, (controlsFor d.key [] d.sortedFields).2 = .ok cs ∧
      Control.settle (cs.map (Control.patch initial)) = (settled, none) ∧
      form = { definition := d, initialValues := initial, controls := settled } := by
  unfold build at h
  cases hcs : (controlsFor d.key [] d.sortedFields).2 with
  | error e =>
    simp only [hcs] at h
    cases h
  | ok cs =>
    simp only [hcs] at h
    rcases hs : Control.settle (cs.map (Control.patch initial)) with ⟨settled, _ | e⟩
    · simp only [hs] at h
      exact ⟨cs, settled, rfl, hs, (Except.ok.inj h).symm⟩
    · simp only [hs] at h
      cases h

/-! ## Calls

Two of the calls change values, a change and a reset, and both end in settling. The others leave the
controls as they are or set marks. -/

/-- Whether listeners are called or a fault is met, the controls are those that settling leaves. -/
theorem settle_controls (cs : List Control) (changed : List String) :
    (form.settle cs changed).form.controls = (Control.settle cs).1 := by
  unfold settle
  rcases Control.settle cs with ⟨settled, _ | e⟩ <;> rfl

theorem settle_definition (cs : List Control) (changed : List String) :
    (form.settle cs changed).form.definition = form.definition := by
  unfold settle
  rcases Control.settle cs with ⟨settled, _ | e⟩ <;> rfl

/-- A change returns when settling does. -/
theorem settle_result {cs : List Control} {changed : List String}
    (h : (form.settle cs changed).result = .ok ()) : (Control.settle cs).2 = none := by
  unfold settle at h
  rcases hs : Control.settle cs with ⟨settled, _ | e⟩
  · rfl
  · rw [hs] at h
    cases h

theorem settle_eq_of_result {cs : List Control} {changed : List String}
    (h : (form.settle cs changed).result = .ok ()) :
    Control.settle cs = ((form.settle cs changed).form.controls, none) := by
  rw [settle_controls, ← settle_result h]

/-- **Setting values** is refused and changes nothing, or settles the controls with the new
values. -/
theorem setValues_cases (form : Form) (values : Record) :
    (∃ key, form.control? key = none ∧ form.setValues values =
      { form := form, result := .error (.error (.unknownField key)) }) ∨
    form.setValues values =
      form.settle (form.controls.map (Control.assign values)) values.keys := by
  unfold setValues
  cases h : values.keys.find? fun k => (form.control? k).isNone with
  | none => exact .inr rfl
  | some key =>
    have hnone := List.find?_some h
    rw [Option.isNone_iff_eq_none] at hnone
    exact .inl ⟨key, hnone, rfl⟩

/-- Every operation that checks leaves the controls as they are, but for their marks. -/
theorem submit_form (today : Date) (form : Form) :
    (form.submit today).form = { form with controls := form.controls.map Control.touch } := by
  unfold submit
  simp only
  split <;> rfl

/-! ## What holds of every reachable form -/

/-- A form of the definition, with one control for every leading field. -/
structure Fits (d : Definition) (form : Form) : Prop where
  definition : form.definition = d
  serves : List.Forall₂ Control.Serves d.leadingFields form.controls

/-- New controls fit, and the first settling keeps that. -/
theorem fits_of_build {initial : Record} (h : (build d initial).2 = .ok form) : form.Fits d := by
  obtain ⟨cs, settled, hcs, hs, rfl⟩ := build_ok h
  have hserves : List.Forall₂ Control.Serves d.leadingFields cs :=
    (controlsFor_leadingFields hcs).imp fun _ _ ⟨_, hchecks, hc⟩ => hc ▸ .fresh hchecks
  have hsettled := Control.serves_settle (Control.serves_map hserves fun _ _ hc => hc.patch initial)
  rw [hs] at hsettled
  exact ⟨rfl, hsettled⟩

/-- To show that a call keeps what fits it is enough to look at the controls that it settles. -/
theorem Fits.settle (h : form.Fits d) {cs : List Control} {changed : List String}
    (hcs : List.Forall₂ Control.Serves d.leadingFields cs) : (form.settle cs changed).form.Fits d where
  definition := (settle_definition cs changed).trans h.definition
  serves := by
    rw [settle_controls]
    exact Control.serves_settle hcs

/-- A change that is refused changes nothing, and any other one assigns and settles. -/
theorem Fits.setValues (h : form.Fits d) (values : Record) : (form.setValues values).form.Fits d := by
  rcases setValues_cases form values with ⟨key, -, heq⟩ | heq
  · rw [heq]
    exact h
  · rw [heq]
    exact h.settle (Control.serves_map h.serves fun _ _ hc => hc.assign values)

/-- A reset goes over the controls one by one and settles. -/
theorem Fits.reset (h : form.Fits d) (initial : Option Record) :
    (form.reset initial).form.Fits d := by
  have hbegun : Fits d { form with initialValues := initial.getD form.initialValues } :=
    ⟨h.definition, h.serves⟩
  exact hbegun.settle (Control.serves_map h.serves fun _ _ hc => hc.restart.patch _)

/-- **A call keeps what fits.** -/
theorem Fits.after (h : form.Fits d) (r : Request) : (form.after r).Fits d := by
  cases r with
  | setValue key v => exact h.setValues [(key, v)]
  | setValues values => exact h.setValues values
  | submit today =>
    rw [Form.after, submit_form]
    exact ⟨h.definition, Control.serves_map h.serves fun _ _ hc => hc.touch⟩
  | reset initial => exact h.reset initial
  | subscribe once => exact ⟨h.definition, h.serves⟩
  | unsubscribe ticket => exact ⟨h.definition, h.serves⟩

/-- **Every reachable form fits its definition**, whatever calls have been refused or interrupted. -/
theorem Reachable.fits (h : Reachable d form) : form.Fits d := by
  induction h with
  | build hb => exact fits_of_build hb
  | call r _ ih => exact ih.after r

/-- The checks of a definition that a form has been built of can be compiled. -/
theorem Reachable.controlsFor_returns (h : Reachable d form) :
    ∃ cs, (controlsFor d.key [] d.sortedFields).2 = .ok cs := by
  induction h with
  | build hb =>
    obtain ⟨cs, -, hcs, -⟩ := build_ok hb
    exact ⟨cs, hcs⟩
  | call _ _ ih => exact ih

/-! ## Running

Runs are lists of calls. The remaining lemmas read properties of forms that have been built off
closed computations. -/

/-- The form that several calls leave behind. -/
def run (form : Form) (rs : List Request) : Form := rs.foldl after form

/-- What holds of reachable forms holds after any run. -/
theorem Reachable.run (h : Reachable d form) (rs : List Request) : Reachable d (form.run rs) := by
  induction rs generalizing form with
  | nil => exact h
  | cons r rest ih => exact ih (h.call r)

/-- A construction that returns a form with a property that can be tested. -/
theorem exists_of_build {initial : Record} {p : Form → Bool}
    (h : (build d initial).2.toOption.any p = true) :
    ∃ form, (build d initial).2 = .ok form ∧ p form = true := by
  cases hb : (build d initial).2 with
  | error e =>
    rw [hb] at h
    cases h
  | ok form =>
    rw [hb] at h
    exact ⟨form, rfl, h⟩

theorem eq_ok_of_toOption {ε α : Type} {x : Except ε α} {a : α} (h : x.toOption = some a) :
    x = .ok a := by
  cases x with
  | error e => cases h
  | ok b => exact congrArg Except.ok (Option.some.inj h)

theorem result_of_isOk {o : Outcome Unit} (h : o.result.isOk = true) : o.result = .ok () := by
  cases hr : o.result with
  | error e =>
    rw [hr] at h
    cases h
  | ok _ => rfl

end Form

end DynamicForm
