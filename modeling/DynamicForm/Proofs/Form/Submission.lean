import DynamicForm.Proofs.Form.Consistency

/-!
# Submission

A submission reads what is shown and which checks are in force from the controls, where they are
kept up to date as values change. Here it is compared with what a definition and values ask for by
themselves, with nothing kept: walk through the leading fields, take those whose conditions hold,
compile the checks of the enabled ones and run them.

- `Definition.submission` is that walk.
- `Form.submit_agrees`: in a settled form a submission gives the same, and changes neither values
  nor what is shown.
-/

namespace DynamicForm

/-! ## What a definition and values ask for

This is written down without any form. It is longer than a submission, which finds most of it done.
-/

/-- Whether the conditions of a field hold on the values. -/
def Field.appears (values : Record) (f : Field) : Bool := f.isShown values matches .ok true

/-- The value under a key, null when there is none. -/
def Record.valueOf (r : Record) (key : String) : Value := (r.get? key).getD .null

/-- The key of a field with the rules that its value fails. -/
def Field.report (today : Date) (values : Record) (f : Field) :
    Except Fault (String × List Failure) := do
  let checks ← f.checks
  let failures ← Check.failures today (values.valueOf f.key) checks
  return (f.key, failures)

namespace Definition

/-- The leading fields whose conditions hold. -/
def shownFields (d : Definition) (values : Record) : List Field :=
  d.leadingFields.filter (Field.appears values)

/-- The record of the fields that are shown, disabled ones included. -/
def answersTo (d : Definition) (values : Record) : Record :=
  (d.shownFields values).map fun f => (f.key, values.valueOf f.key)

/-- The fields that are shown, enabled and fail, each with every rule that it fails. -/
def refusals (today : Date) (d : Definition) (values : Record) :
    Except Fault (List (String × List Failure)) := do
  let reports ← ((d.shownFields values).filter fun f => !f.disabled).mapM (Field.report today values)
  return reports.filter fun r => !r.2.isEmpty

/-- What a submission of the values has to give: the record when nothing fails, otherwise all that
fails. -/
def submission (today : Date) (d : Definition) (values : Record) : Except Interruption Record :=
  match d.refusals today values with
  | .error e => .error (.fault e)
  | .ok [] => .ok (d.answersTo values)
  | .ok failures => .error (.error (.invalid failures))

end Definition

/-! ## Values by key

The bridge between the two are the values: a form looks them up in its controls, the definition in a
record. -/

namespace Form

variable {d : Definition} {form : Form}

/-- The record of the values has for every control its value. -/
theorem Fits.valueOf (h : form.Fits d) {c : Control} (hc : c ∈ form.controls) :
    form.values.valueOf c.key = c.value := by
  rw [Record.valueOf, values, Control.get?_valuesOf h.nodup_keys hc]
  rfl

/-- In a form that agrees with itself, a field appears when its control is visible. -/
theorem Agrees.appears (h : form.Agrees) {c : Control} (hc : c ∈ form.controls) :
    c.field.appears form.values = c.visible := by
  rw [Field.appears, h.shown c hc]
  cases c.visible <;> rfl

/-- The walk over the leading fields finds those that the form shows. -/
theorem Fits.shownFields_eq (h : form.Fits d) (ha : form.Agrees) :
    d.shownFields form.values = form.visibleControls.map (·.field) := by
  rw [Definition.shownFields, ← h.fields_eq, List.filter_map, visibleControls]
  congr 1
  exact List.filter_congr fun c hc => ha.appears hc

/-- **Answers.** The record is that of the fields that are shown. -/
theorem Fits.answers_eq (h : form.Fits d) (ha : form.Agrees) :
    form.answers = d.answersTo form.values := by
  rw [Definition.answersTo, h.shownFields_eq ha, List.map_map, answers, Control.valuesOf]
  refine List.map_congr_left fun c hc => ?_
  have hmem : c ∈ form.controls := (List.mem_filter.mp hc).1
  rw [Function.comp_apply, ← h.valueOf hmem]
  rfl

/-! ## Failures

A control that is hidden or disabled is not checked. The walk of the form asks each control for its
failures, the one of the definition leaves such fields out; what comes of it is the same. -/

/-- What one control fails, read off its field. -/
theorem Fits.failures_control (h : form.Fits d) (today : Date) {c : Control}
    (hc : c ∈ form.controls) (hv : c.visible = true) (hd : c.field.disabled = false) :
    (c.failures today).map (fun fs => (c.key, fs)) = c.field.report today form.values := by
  have hchecks : c.checks = c.compiled := by
    rw [(h.coherent hc).checks_eq, hv]
    rfl
  have hvalue : form.values.valueOf c.field.key = c.value := h.valueOf hc
  have hfailures : c.failures today = Check.failures today c.value c.compiled := by
    rw [Control.failures, hv, hd, hchecks]
    rfl
  rw [hfailures, Field.report, h.compiled hc, hvalue]
  change _ = Except.bind (Check.failures today c.value c.compiled) _
  cases Check.failures today c.value c.compiled <;> rfl

/-- A hidden or disabled control fails nothing. -/
theorem failures_of_exempt (today : Date) {c : Control}
    (h : (c.visible && !c.field.disabled) = false) : c.failures today = .ok [] := by
  cases hv : c.visible <;> cases hd : c.field.disabled <;> simp_all [Control.failures]

/-- A walk that returns has checked the first control and the others. -/
theorem failuresIn_cons_ok {today : Date} {c : Control} {rest : List Control}
    {reports : List (String × List Failure)} (h : failuresIn today (c :: rest) = .ok reports) :
    ∃ fs others, c.failures today = .ok fs ∧ failuresIn today rest = .ok others ∧
      reports = if fs.isEmpty then others else (c.key, fs) :: others := by
  unfold failuresIn at h
  cases hfs : c.failures today with
  | error e =>
    rw [hfs] at h
    cases h
  | ok fs =>
    cases hothers : failuresIn today rest with
    | error e =>
      rw [hfs, hothers] at h
      cases h
    | ok others =>
      rw [hfs, hothers] at h
      exact ⟨fs, others, rfl, rfl, (Except.ok.inj h).symm⟩

/-- Whatever fails is shown. -/
theorem visible_of_failuresIn {today : Date} {cs : List Control}
    {reports : List (String × List Failure)} (h : failuresIn today cs = .ok reports) {key : String}
    (hkey : key ∈ reports.map Prod.fst) : ∃ c ∈ cs, c.key = key ∧ c.visible = true := by
  induction cs generalizing reports with
  | nil =>
    obtain rfl := Except.ok.inj h
    cases hkey
  | cons c rest ih =>
    obtain ⟨fs, others, hfs, hothers, rfl⟩ := failuresIn_cons_ok h
    have hrest : key ∈ others.map Prod.fst → ∃ e ∈ c :: rest, e.key = key ∧ e.visible = true := by
      intro hmem
      obtain ⟨e, he, hshown⟩ := ih hothers hmem
      exact ⟨e, List.mem_cons_of_mem c he, hshown⟩
    cases fs with
    | nil => exact hrest hkey
    | cons f fs =>
      rcases List.mem_cons.mp hkey with rfl | hmem
      · refine ⟨c, List.mem_cons_self, rfl, ?_⟩
        by_contra hv
        rw [failures_of_exempt today (by simp [hv])] at hfs
        cases hfs
      · exact hrest hmem

/-- The walk over the controls is that over the fields of those which are checked. The induction is
on a part of the controls, so that values can be read off the whole form. -/
theorem failuresIn_eq (h : form.Fits d) (today : Date) {cs : List Control}
    (hcs : ∀ c ∈ cs, c ∈ form.controls) :
    failuresIn today cs = (do
      let reports ← ((cs.filter fun c => c.visible && !c.field.disabled).map (·.field)).mapM
        (Field.report today form.values)
      return reports.filter fun r => !r.2.isEmpty) := by
  induction cs with
  | nil => rfl
  | cons c rest ih =>
    have hrest := ih fun e he => hcs e (List.mem_cons_of_mem c he)
    unfold failuresIn
    rw [hrest, List.filter_cons]
    cases hchecked : (c.visible && !c.field.disabled) with
    -- the field is left out on the one side and fails nothing on the other
    | false =>
      rw [failures_of_exempt today hchecked, if_neg Bool.false_ne_true]
      cases ((rest.filter fun c => c.visible && !c.field.disabled).map (·.field)).mapM
        (Field.report today form.values) <;> rfl
    | true =>
      obtain ⟨hv, hd⟩ := Bool.and_eq_true_iff.mp hchecked
      have hreport := h.failures_control today (hcs c List.mem_cons_self) hv (by simpa using hd)
      rw [if_pos rfl, List.map_cons, List.mapM_cons, ← hreport]
      cases c.failures today with
      | error e => rfl
      | ok fs =>
        cases ((rest.filter fun c => c.visible && !c.field.disabled).map (·.field)).mapM
          (Field.report today form.values) with
        | error e => rfl
        | ok reports =>
          cases fs <;> rfl

/-- **Failures.** What the controls fail is what the fields that are shown fail. -/
theorem Fits.failures_eq (h : form.Fits d) (ha : form.Agrees) (today : Date) :
    form.failures today = d.refusals today form.values := by
  rw [failures, failuresIn_eq h today fun _ hc => hc, Definition.refusals, h.shownFields_eq ha,
    List.filter_map, visibleControls, List.filter_filter]
  simp only [Function.comp_def, Bool.and_comm]

/-! ## Marks

A submission marks every control as touched before it does anything else. The marks are for display;
nothing that a submission reads depends on them. -/

theorem failuresIn_touch (today : Date) (cs : List Control) :
    failuresIn today (cs.map Control.touch) = failuresIn today cs := by
  induction cs with
  | nil => rfl
  | cons c rest ih =>
    rw [List.map_cons, failuresIn, failuresIn, ih]
    rfl

/-- Marking the controls leaves the values alone. -/
theorem values_touch (form : Form) :
    values { form with controls := form.controls.map Control.touch } = form.values := by
  simp only [values, Control.valuesOf, List.map_map]
  rfl

theorem visibility_touch (form : Form) :
    visibility { form with controls := form.controls.map Control.touch } = form.visibility := by
  simp only [visibility, List.map_map]
  rfl

theorem answers_touch (form : Form) :
    answers { form with controls := form.controls.map Control.touch } = form.answers := by
  simp only [answers, visibleControls, List.filter_map, Control.valuesOf, List.map_map]
  rfl

/-- What a submission comes to: the marks change nothing that it reads. -/
theorem submit_result (today : Date) (form : Form) :
    (form.submit today).result = match form.failures today with
      | .error e => .error (.fault e)
      | .ok [] => .ok form.answers
      | .ok failures => .error (.error (.invalid failures)) := by
  have htouched : failures today { form with controls := form.controls.map Control.touch } =
      form.failures today := failuresIn_touch today form.controls
  simp only [submit, htouched, answers_touch]
  rcases form.failures today with e | _ | ⟨f, fs⟩ <;> rfl

/-- A submission that succeeds gives the record of the form. -/
theorem answers_of_submit {today : Date} {answers : Record}
    (h : (form.submit today).result = .ok answers) : answers = form.answers := by
  rw [submit_result] at h
  split at h
  · cases h
  · exact (Except.ok.inj h).symm
  · cases h

/-- **Submission.** In a settled form a submission gives what the definition asks for on the current
values, and changes neither the values nor what is shown. -/
theorem submit_agrees (h : Settled d form) (today : Date) :
    (form.submit today).result = d.submission today form.values ∧
    (form.submit today).form.values = form.values ∧
    (form.submit today).form.visibility = form.visibility := by
  have hfits := h.reachable.fits
  have hfailures := hfits.failures_eq h.agrees today
  refine ⟨?_, ?_, ?_⟩
  · -- the check runs after the marks are set, which change nothing it reads
    have htouched : failures today { form with controls := form.controls.map Control.touch } =
        d.refusals today form.values :=
      (failuresIn_touch today form.controls).trans hfailures
    simp only [submit, Definition.submission, htouched, answers_touch,
      hfits.answers_eq h.agrees]
    rcases d.refusals today form.values with e | _ | ⟨f, fs⟩ <;> rfl
  · rw [submit_form]
    exact values_touch form
  · rw [submit_form]
    exact visibility_touch form

/-- A submission of a form with a hidden field. -/
theorem submit_agrees_tangled :
    ∃ form, Settled tangled form ∧
      ((form.submit ⟨2024, 1, 15⟩).result matches .ok [_, _]) = true ∧
      (form.submit ⟨2024, 1, 15⟩).result = tangled.submission ⟨2024, 1, 15⟩ form.values ∧
      (form.submit ⟨2024, 1, 15⟩).form.values = form.values ∧
      (form.submit ⟨2024, 1, 15⟩).form.visibility = form.visibility := by
  have hbuild : (build tangled [("right", .text "r")]).2.toOption.any
      (fun form => (form.submit ⟨2024, 1, 15⟩).result matches .ok [_, _]) = true := by
    cbv
  obtain ⟨form, hb, haccepted⟩ := exists_of_build hbuild
  exact ⟨form, .build hb, haccepted, submit_agrees (.build hb) ⟨2024, 1, 15⟩⟩

end Form

end DynamicForm
