import DynamicForm.Proofs.Form.Rearrangement

/-!
# Resets

A reset starts again from the defaults and from initial values, its own or those given last, and
compiles nothing anew. What it leaves is a form that has just been built, whatever was called before
and however it ended, so that a form keeps no memory but that of its initial values.

A form can also be reset to the values that it holds. That changes nothing of what it holds and shows
if it agrees with itself, although every control is shown at the beginning: the first pass reads the
values of the settled form, and so it hides what was hidden and clears nothing. Otherwise the passes
find something to change. Calls that return keep a form in agreement, but a change that a fault
interrupts does not, and a submission afterwards does not notice.

- `Form.Fits.reset_cases`: a reset leaves a new form, or meets the fault that keeps one from being
  built.
- `Form.Agrees.reset_values`: what a reset to the values of a form in agreement leaves.
- `Form.reset_renews`: both, for the form that any run leaves behind.
-/

namespace DynamicForm

namespace Control

/-- A control without its mark. -/
def unmark (c : Control) : Control := { c with touched := false }

/-- A control that starts again, but with the value that it has. -/
def revive (c : Control) : Control := { c.restart with value := c.value }

/-- When the first pass takes no value away, it is the only one. -/
theorem settle_once {cs : List Control}
    (h : ∀ c ∈ cs, ∃ d, c.refresh (valuesOf cs) = .ok d ∧ d.value = c.value) :
    settle cs = (cs.map (refreshed (valuesOf cs)), none) := by
  have hrefreshed : ∀ c ∈ cs, c.refresh (valuesOf cs) = .ok (c.refreshed (valuesOf cs)) ∧
      (c.refreshed (valuesOf cs)).value = c.value := by
    intro c hc
    obtain ⟨d, hd, hvalue⟩ := h c hc
    rw [refreshed, hd]
    exact ⟨rfl, hvalue⟩
  refine settle_of_not_cleared (refreshAll_eq_map.mpr ⟨fun c hc => (hrefreshed c hc).1, rfl⟩) ?_
  rw [hasCleared_map, Bool.not_eq_true, List.any_eq_false]
  intro c hc
  simp [isLive, (hrefreshed c hc).2]

/-- **Showing again.** The first pass makes of a settled control that starts again with the value
that it has what it was before, without its mark. -/
theorem Settled.refresh_revive {values : Record} {c : Control} (h : c.Settled values)
    (hc : c.Coherent) : c.revive.refresh values = .ok c.unmark := by
  obtain ⟨field, compiled, value, checks, visible, touched⟩ := c
  obtain rfl : checks = if visible then compiled else [] := hc.checks_eq
  have hshown : field.isShown values = .ok visible := h.shown
  unfold Control.refresh
  simp only [revive, restart, fresh, hshown]
  cases hf : field.hasConditions with
  | false =>
    obtain rfl : visible = true := hc.visible hf
    rfl
  | true =>
    cases visible with
    | true => rfl
    | false =>
      obtain rfl : value = .null := h.cleared rfl
      rfl

end Control

namespace Form

variable {d : Definition} {form : Form}

/-- The other form holds the same values, shows the same fields and fails the same rules. -/
structure Unmoved (form again : Form) : Prop where
  values : again.values = form.values
  visibility : again.visibility = form.visibility
  failuresOf : ∀ today key, again.failuresOf today key = form.failuresOf today key
  failures : ∀ today, again.failures today = form.failures today

/-! ## Resets and constructions

Both end in settling, and begin with the same controls: a reset makes each control start again, a
construction makes it from its field. The checks are the ones that were compiled in the beginning.
-/

/-- Starting again gives the controls that the form was built from. -/
theorem Fits.restart_eq (h : form.Fits d) {cs : List Control}
    (hcs : (controlsFor d.key [] d.sortedFields).2 = .ok cs) :
    form.controls.map Control.restart = cs := by
  rw [controlsFor_eq_map hcs, ← h.fields_eq, List.map_map]
  refine List.map_congr_left fun c hc => ?_
  rw [Function.comp_apply, Form.starting, h.compiled hc]
  rfl

/-- **A reset** leaves what a construction from the same initial values gives, but for the listeners,
or meets the same fault. -/
theorem Fits.reset_cases (h : form.Fits d)
    (hcs : ∃ cs, (controlsFor d.key [] d.sortedFields).2 = .ok cs) (given : Option Record) :
    (∃ fresh, (build d (given.getD form.initialValues)).2 = .ok fresh ∧
      (form.reset given).result = .ok () ∧
      (form.reset given).form = { fresh with listeners := (form.reset given).form.listeners }) ∨
    ∃ e, (build d (given.getD form.initialValues)).2 = .error e ∧
      (form.reset given).result = .error (.fault e) := by
  obtain ⟨cs, hcs⟩ := hcs
  generalize hinitial : given.getD form.initialValues = initial
  have hstart : form.restarted initial = cs.map (Control.patch initial) := by
    rw [← h.restart_eq hcs, List.map_map]
    rfl
  have hreset : form.reset given =
      Form.settle { form with initialValues := initial } (cs.map (Control.patch initial))
        form.keys := by
    rw [← hstart, ← hinitial]
    rfl
  -- from here on a reset and a construction settle the same controls
  rw [hreset, Form.settle]
  simp only [build, hcs]
  rcases Control.settle (cs.map (Control.patch initial)) with ⟨settled, _ | e⟩
  · refine .inl ⟨_, rfl, rfl, ?_⟩
    rw [← h.definition]
    rfl
  · exact .inr ⟨e, rfl, rfl⟩

theorem run_initialValues {m : Recollection} (h : form.initialValues = m.initial)
    (calls : List Request) : (form.run calls).initialValues = (m.run calls).initial := by
  induction calls generalizing form m with
  | nil => exact h
  | cons r rest ih => exact ih (after_initialValues h r)

/-! ## Resets to the values of the form

Here the controls begin with values that have been settled, but all of them are shown. One pass is
enough to hide again what was hidden, because it reads the values of the settled form; and as hidden
controls have no values, it clears none. -/

/-- **A form in agreement** comes back from a reset to its own values, without its marks. -/
theorem Agrees.reset_values (ha : form.Agrees) (h : form.Fits d) :
    (form.reset (some form.values)).result = .ok () ∧
      (form.reset (some form.values)).form.controls = form.controls.map Control.unmark := by
  have hstart : form.restarted form.values = form.controls.map Control.revive := by
    refine List.map_congr_left fun c hc => ?_
    have hvalue : form.values.get? c.restart.key = some c.value :=
      Control.get?_valuesOf h.nodup_keys hc
    rw [Control.patch, hvalue]
    rfl
  have hvalues : Control.valuesOf (form.controls.map Control.revive) = form.values := by
    rw [Control.valuesOf, List.map_map]
    rfl
  -- one refresh brings each control back to what it was
  have hback : ∀ c ∈ form.controls, c.revive.refresh form.values = .ok c.unmark := fun c hc =>
    (ha.settled hc).refresh_revive (h.coherent hc)
  have hsettle : Control.settle (form.restarted form.values) =
      (form.controls.map Control.unmark, none) := by
    rw [hstart, Control.settle_once, hvalues, List.map_map]
    · refine congrArg (·, none) (List.map_congr_left fun c hc => ?_)
      rw [Function.comp_apply, Control.refreshed, hback c hc]
      rfl
    · rw [hvalues]
      exact List.forall_mem_map.mpr fun c hc => ⟨c.unmark, hback c hc, rfl⟩
  have hreset : form.reset (some form.values) =
      Form.settle { form with initialValues := form.values } (form.restarted form.values)
        form.keys := rfl
  rw [hreset, settle_controls, settle, hsettle]
  exact ⟨rfl, rfl⟩

/-- Marks are not told by values, by what is shown and by failures. -/
theorem unmoved_of_unmark {again : Form}
    (h : again.controls = form.controls.map Control.unmark) : form.Unmoved again where
  values := by
    rw [values, h, Control.valuesOf, List.map_map]
    rfl
  visibility := by
    rw [visibility, h, List.map_map]
    rfl
  -- a mark is nothing that a check asks for
  failuresOf today key := by
    have hfind : again.control? key = (form.control? key).map Control.unmark := by
      rw [control?, h, List.find?_map]
      rfl
    rw [failuresOf, failuresOf, control, control, hfind]
    cases form.control? key <;> rfl
  failures today := by
    rw [failures, failures, h]
    generalize form.controls = cs
    induction cs with
    | nil => rfl
    | cons c rest ih =>
      rw [List.map_cons, failuresIn, failuresIn, ih]
      rfl

/-- Agreement is about values and about what is shown. -/
theorem Agrees.of_unmoved {again : Form} (ha : again.Agrees) (hagain : again.Fits d)
    (h : form.Fits d) (hsame : form.Unmoved again) : form.Agrees := by
  -- for every control the form after the reset has one with the same field, value and sight
  have hother : ∀ c ∈ form.controls, ∃ e ∈ again.controls, e.field = c.field ∧
      e.visible = c.visible ∧ e.value = c.value := by
    intro c hc
    have hmem : (c.key, c.visible) ∈ again.visibility :=
      hsame.visibility ▸ List.mem_map_of_mem (f := fun c : Control => (c.key, c.visible)) hc
    obtain ⟨e, he, heq⟩ := List.mem_map.mp hmem
    obtain ⟨hkey, hvisible⟩ := Prod.mk.inj heq
    have hvalue : again.values.get? e.key = some e.value :=
      Control.get?_valuesOf hagain.nodup_keys he
    rw [hsame.values, hkey, values, Control.get?_valuesOf h.nodup_keys hc] at hvalue
    exact ⟨e, he, h.field_eq_of_key hagain hc he hkey, hvisible, (Option.some.inj hvalue).symm⟩
  refine ⟨fun c hc => ?_, fun c hc hv => ?_⟩
  · obtain ⟨e, he, hfield, hvisible, -⟩ := hother c hc
    rw [← hfield, ← hvisible, ← hsame.values]
    exact ha.shown e he
  · obtain ⟨e, he, -, hvisible, hvalue⟩ := hother c hc
    rw [← hvalue]
    exact ha.cleared e he (hvisible.trans hv)

/-- **Resets.** After any calls, also refused and interrupted ones, a reset returns exactly if a form
can be built from the same initial values, its own or those given last, and leaves just that form
with the listeners that there are; otherwise it meets the same fault. A reset to the values of the
form returns and leaves values, what is shown and failures as they were exactly if the form agrees
with itself. It does so right after a construction, a change of values or a reset that returned, and
also after submissions since. -/
theorem reset_renews {initial : Record} {start : Form} (hb : (build d initial).2 = .ok start)
    (calls : List Request) :
    let now := start.run calls
    let again := now.reset (some now.values)
    (∀ given, let initial := given.getD (Recollection.run { initial := initial } calls).initial
      (∃ fresh, (build d initial).2 = .ok fresh ∧ (now.reset given).result = .ok () ∧
        (now.reset given).form = { fresh with listeners := (now.reset given).form.listeners }) ∨
      ∃ e, (build d initial).2 = .error e ∧ (now.reset given).result = .error (.fault e)) ∧
    (again.result = .ok () ∧ now.Unmoved again.form ↔ now.Agrees) ∧
    ∀ settled idle, Settled d settled → (∀ r ∈ idle, r.isIdle = true) →
      now = settled.run idle → now.Agrees := by
  intro now again
  have hreachable : Reachable d now := (Reachable.build hb).run calls
  have hfits := hreachable.fits
  have hinitial : now.initialValues = (Recollection.run { initial := initial } calls).initial :=
    run_initialValues (remembers_of_build hb).initialValues calls
  refine ⟨fun given => ?_, ⟨fun ⟨hok, hsame⟩ => ?_, fun ha => ?_⟩, ?_⟩
  · have hcases := hfits.reset_cases hreachable.controlsFor_returns given
    rwa [hinitial] at hcases
  -- a reset that changes nothing leaves a settled form, so the form was settled before
  · have hagain := Settled.reset (some now.values) hreachable hok
    exact hagain.agrees.of_unmoved hagain.reachable.fits hfits hsame
  · obtain ⟨hok, hcontrols⟩ := ha.reset_values hfits
    exact ⟨hok, unmoved_of_unmark hcontrols⟩
  · rintro settled idle hsettled hidle hnow
    rw [hnow]
    exact hsettled.agrees.run hidle

/-- A field that says whether something has been paid. -/
def paidField : Field := { id := "1", type := .text, label := "Paid", key := "paid", order := 0 }

/-- A field for what has been paid. -/
def sumField : Field where
  id := "2"
  type := .text
  label := "Amount"
  key := "amount"
  order := 1
  conditions := some [{ fieldKey := "paid", operator := .equals, value := .text "yes" }]

/-- A field for the reason of a payment. -/
def purposeField : Field where
  id := "3"
  type := .text
  label := "Reason"
  key := "reason"
  order := 2
  conditions := some [{ fieldKey := "amount", operator := .equals, value := .text "0" }]

/-- A form that asks whether something has been paid, then for the amount, and for a reason when that
is zero. -/
def expenses : Definition where
  name := "Expenses"
  key := "expenses"
  fields := [paidField, sumField, purposeField]

/-- A call that is refused, one that is interrupted and a submission. -/
def troubled : List Request :=
  [.setValue "nowhere" .null, .setValues [("paid", .text "no"), ("amount", .int (10 ^ 309))],
    .submit ⟨2024, 1, 15⟩]

/-- After trouble a reset gives the form that there was at first; and a reset of that form to its own
values, after a submission, moves nothing. -/
theorem reset_renews_expenses :
    ∃ start, (build expenses [("paid", .text "yes"), ("amount", .text "0")]).2 = .ok start ∧
      ((start.run troubled).reset none).result = .ok () ∧
      (∃ listeners, ((start.run troubled).reset none).form = { start with listeners }) ∧
      let now := start.run [.submit ⟨2024, 1, 15⟩]
      now.Unmoved (now.reset (some now.values)).form := by
  have hbuild : (build expenses [("paid", .text "yes"), ("amount", .text "0")]).2.toOption.any
      (fun _ => true) = true := by
    cbv
  obtain ⟨start, hb, -⟩ := exists_of_build hbuild
  refine ⟨start, hb, ?_⟩
  obtain ⟨fresh, hfresh, hok, hform⟩ | ⟨e, he, -⟩ := (reset_renews hb troubled).1 none
  · obtain rfl : start = fresh := Except.ok.inj (hb.symm.trans hfresh)
    obtain ⟨-, hunmoved, hagrees⟩ := reset_renews hb [.submit ⟨2024, 1, 15⟩]
    have hnow := hagrees start [.submit ⟨2024, 1, 15⟩] (.build hb)
      (List.forall_mem_singleton.mpr rfl) rfl
    exact ⟨hok, ⟨_, hform⟩, (hunmoved.mpr hnow).2⟩
  · cases hb.symm.trans he

/-- When no control fails a rule, there are no failures. -/
theorem failuresIn_eq_nil {today : Date} {cs : List Control}
    (h : ∀ c ∈ cs, c.failures today = .ok []) : failuresIn today cs = .ok [] := by
  induction cs with
  | nil => rfl
  | cons c rest ih =>
    obtain ⟨hc, hrest⟩ := List.forall_mem_cons.mp h
    rw [failuresIn, hc, ih hrest]
    rfl

theorem leadingFields_expenses : expenses.leadingFields = [paidField, sumField, purposeField] := by
  cbv

/-- The form always has the three controls. -/
theorem Fits.controls_expenses (h : form.Fits expenses) :
    ∃ p s r, form.controls = [p, s, r] ∧
      p.field = paidField ∧ s.field = sumField ∧ r.field = purposeField := by
  have hfields := h.fields_eq
  rw [leadingFields_expenses] at hfields
  obtain ⟨p, rest, hcontrols, hp, hrest⟩ := List.map_eq_cons_iff.mp hfields
  obtain ⟨s, rest', rfl, hs, hrest'⟩ := List.map_eq_cons_iff.mp hrest
  obtain ⟨r, rest'', rfl, hr, hnil⟩ := List.map_eq_cons_iff.mp hrest'
  obtain rfl := List.map_eq_nil_iff.mp hnil
  exact ⟨p, s, r, hcontrols, hp, hs, hr⟩

/-- No submission is refused, because the fields have no checks. -/
theorem Fits.submit_expenses (h : form.Fits expenses) (today : Date) :
    (form.submit today).result = .ok form.answers := by
  have hchecks : ∀ f ∈ expenses.leadingFields, f.checks = .ok [] := by
    simp only [leadingFields_expenses, List.forall_mem_cons]
    exact ⟨rfl, rfl, rfl, List.forall_mem_nil _⟩
  have hnone : ∀ c ∈ form.controls, c.failures today = .ok [] := by
    intro c hc
    have hcompiled : c.compiled = [] :=
      Except.ok.inj ((h.compiled hc).symm.trans
        (hchecks c.field (h.fields_eq ▸ List.mem_map_of_mem hc)))
    rw [Control.failures, (h.coherent hc).checks_eq, hcompiled, ite_self]
    split <;> rfl
  rw [submit_result, failures, failuresIn_eq_nil hnone]

/-- The change is interrupted at the last field: the second one has been hidden, the last one has
been left alone. -/
theorem Fits.setValues_expenses (h : form.Fits expenses) {n : Int}
    (hn : (Binary64.ofInt? n).isNone = true) :
    ∃ p s r, r ∈ form.controls ∧ r.field = purposeField ∧
      (form.setValues [("paid", .text "no"), ("amount", .int n)]).form.controls = [p, s, r] ∧
      Control.valuesOf [p, s, r] =
        [("paid", .text "no"), ("amount", .null), ("reason", r.value)] := by
  obtain ⟨p, s, r, hcontrols, hp, hs, hr⟩ := h.controls_expenses
  have hkp : p.key = "paid" := by rw [Control.key, hp]; rfl
  have hks : s.key = "amount" := by rw [Control.key, hs]; rfl
  have hkr : r.key = "reason" := by rw [Control.key, hr]; rfl
  -- the first two controls as the change writes them; the last one is as it was
  let paid : Control := { p with value := .text "no", touched := true }
  let sum : Control := { s with value := .int n, touched := true }
  have hassigned : form.assigned [("paid", .text "no"), ("amount", .int n)] = [paid, sum, r] := by
    simp [assigned, hcontrols, Control.assign, hkp, hks, hkr, Record.get?_cons, paid, sum]
  have hset : form.setValues [("paid", .text "no"), ("amount", .int n)] =
      form.settle [paid, sum, r] ["paid", "amount"] := by
    rw [← hassigned]
    simp [Form.setValues, Record.keys, control?, hcontrols, hkp, hks, assigned]
  have hvalues : Control.valuesOf [paid, sum, r] =
      [("paid", .text "no"), ("amount", .int n), ("reason", r.value)] := by
    simp [Control.valuesOf, hkr, show paid.key = "paid" from hkp, show sum.key = "amount" from hks,
      paid, sum]
  -- the pass: the first control is kept, the second one hidden, and the last one cannot be tested
  have hkept : paid.refresh (Control.valuesOf [paid, sum, r]) = .ok paid := by
    rw [Control.refresh, show paid.field = paidField from hp]
    rfl
  have hhidden : sum.refresh (Control.valuesOf [paid, sum, r]) = .ok (sum.present false) := by
    rw [Control.refresh, hvalues, show sum.field = sumField from hs]
    rfl
  have htest : r.field.isShown (Control.valuesOf [paid, sum, r]) = .error .integerTooLarge := by
    rw [hr, hvalues]
    refine allHold_cons_of_error ?_
    rw [Condition.holds, show Record.get? _ _ = some (.int n) from rfl]
    refine Condition.test_eq_error.mpr ⟨?_, rfl⟩
    rw [Condition.overflows, show (Value.int n).isTooLarge = true from hn]
    rfl
  have hmet : r.refresh (Control.valuesOf [paid, sum, r]) = .error .integerTooLarge := by
    rw [Control.refresh, htest, hr]
    rfl
  have hpass : Control.refreshAll (Control.valuesOf [paid, sum, r]) [paid, sum, r] =
      ([paid, sum.present false, r], some .integerTooLarge) := by
    simp only [Control.refreshAll, hkept, hhidden, hmet]
  refine ⟨paid, sum.present false, r, ?_, hr, ?_, ?_⟩
  · simp [hcontrols]
  · rw [hset, Form.settle, Control.settle_of_fault hpass]
  · simp [Control.valuesOf, hkr, show paid.key = "paid" from hkp,
      show (sum.present false).key = "amount" by rw [Control.key, Control.present_field]; exact hks,
      paid]

/-- A form is built from what the interrupted change leaves. -/
theorem build_expenses (v : Value) :
    ∃ form, (build expenses [("paid", .text "no"), ("amount", .null), ("reason", v)]).2 =
      .ok form := by
  have hbuild : (build expenses
      [("paid", .text "no"), ("amount", .null), ("reason", v)]).2.toOption.any
        (fun _ => true) = true := by
    cases v <;> cbv
  obtain ⟨form, hb, -⟩ := exists_of_build hbuild
  exact ⟨form, hb⟩

/-- **A submission can follow an interrupted change.** The first field hides the second one, and the
third compares what the second one has just been given. So the third is still shown when the form is
submitted, and hidden by a reset to the values of the form. -/
theorem not_unmoved_expenses :
    ¬∀ d form today answers, Reachable d form → (form.submit today).result = .ok answers →
      let now := (form.submit today).form
      let again := now.reset (some now.values)
      again.result = .ok () → now.Unmoved again.form := by
  intro h
  let today : Date := ⟨2024, 1, 15⟩
  let change : Record := [("paid", .text "no"), ("amount", .int (10 ^ 309))]
  have hbuild : (build expenses [("paid", .text "yes"), ("amount", .text "0")]).2.toOption.any
      (fun start => start.controls.all fun c => c.visible) = true := by
    cbv
  obtain ⟨start, hb, hstart⟩ := exists_of_build hbuild
  obtain ⟨p, s, r, hr, hfield, hcontrols, hvalues⟩ :=
    (fits_of_build hb).setValues_expenses (n := 10 ^ 309) (by decide +kernel)
  have hvisible : r.visible = true := List.all_eq_true.mp hstart r hr
  have hform : Reachable expenses (start.setValues change).form :=
    (Reachable.build hb).call (.setValues change)
  have hnow := hform.call (.submit today)
  -- a submission goes through and leaves what is shown as it is
  generalize hsubmitted : (start.setValues change).form.after (.submit today) = now at hnow
  have htouched : now.controls = [p, s, r].map Control.touch := by
    rw [← hsubmitted, ← hcontrols]
    exact congrArg controls (submit_form today _)
  have hleft : now.values = [("paid", .text "no"), ("amount", .null), ("reason", r.value)] := by
    rw [← hvalues, values, htouched]
    rfl
  have hok : (now.reset (some now.values)).result = .ok () := by
    obtain ⟨form, hbuilt⟩ := build_expenses r.value
    rcases hnow.fits.reset_cases hnow.controlsFor_returns (some now.values) with
      ⟨_, -, hok, -⟩ | ⟨e, he, -⟩
    · exact hok
    · rw [Option.getD_some, hleft, hbuilt] at he
      cases he
  have hsame : now.Unmoved (now.reset (some now.values)).form := by
    have hall := h expenses _ today _ hform (hform.fits.submit_expenses today)
    rw [show ((start.setValues change).form.submit today).form = now from hsubmitted] at hall
    exact hall hok
  have hagain := Settled.reset (some now.values) hnow hok
  have hagrees : now.Agrees := hagain.agrees.of_unmoved hagain.reachable.fits hnow.fits hsame
  have hshown := hagrees.shown r.touch (by rw [htouched]; simp)
  rw [show r.touch.field = purposeField from hfield, hleft,
    show r.touch.visible = true from hvisible] at hshown
  cases hshown

end Form

end DynamicForm
