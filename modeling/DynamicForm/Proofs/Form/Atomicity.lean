import DynamicForm.Proofs.Comparison
import DynamicForm.Proofs.Form.Consistency

/-!
# Interrupted changes

A change of values writes them first and tests the conditions afterwards. A call that names an
unknown key is refused before anything is written. A fault is met later, so what has been written
stays, and the only fault is that of an integer that is compared as a number and is too large for
one.

- `Outcome.Atomic` holds of a call that completes or else leaves everything as it was.
- `Control.settle_fault`: the loop meets a fault only at a condition that overflows on the value that
  its key had at the start, or on null.
- `Form.changes_atomic`: so every change of values and every reset is atomic unless there is such a
  condition, and if not, nobody is told of what stays.
-/

namespace DynamicForm

/-- The call completes, or it leaves the form as it was and calls no listener. -/
def Outcome.Atomic {α : Type} (before : Form) (o : Outcome α) : Prop :=
  (∃ a, o.result = .ok a) ∨ o.form = before ∧ o.calls = []

namespace Control

/-- There is a condition that overflows on the value of its key, or would on null. -/
def Overflowing (cs : List Control) : Prop :=
  ∃ c ∈ cs, ∃ t ∈ c.field.conditionList, ∃ v, Record.get? (valuesOf cs) t.fieldKey = some v ∧
    (t.overflows v = true ∨ t.overflows .null = true)

variable {cs : List Control} {e : Fault}

/-- A pass meets a fault where conditions are tested. -/
theorem refreshAll_fault {values : Record} {next : List Control}
    (h : refreshAll values cs = (next, some e)) : ∃ c ∈ cs, c.field.isShown values = .error e := by
  induction cs generalizing next with
  | nil => cases h
  | cons c rest ih =>
    unfold refreshAll at h
    cases hc : c.refresh values with
    | error f =>
      rw [hc] at h
      obtain rfl := Option.some.inj (Prod.mk.inj h).2
      refine ⟨c, List.mem_cons_self, ?_⟩
      unfold refresh at hc
      split at hc
      · cases hs : c.field.isShown values with
        | error g =>
          rw [hs] at hc
          exact congrArg _ (Except.error.inj hc)
        | ok b =>
          rw [hs] at hc
          cases hc
      · cases hc
    -- this control has been refreshed, so the fault is met further on
    | ok d =>
      rcases hr : refreshAll values rest with ⟨ds, f⟩
      rw [hc, hr] at h
      obtain ⟨-, rfl⟩ := Prod.mk.inj h
      obtain ⟨c', hmem, hfault⟩ := ih hr
      exact ⟨c', List.mem_cons_of_mem c hmem, hfault⟩

/-- The loop meets a fault in a pass over what earlier passes have made of the controls. -/
theorem settle_fault_pass {done : List Control} (h : settle cs = (done, some e)) :
    ∃ es, List.Forall₂ Refreshed cs es ∧ ∃ c ∈ es, c.field.isShown (valuesOf es) = .error e := by
  induction cs using settle.induct with
  | case1 cs next f hpass =>
    rw [settle_of_fault hpass] at h
    obtain ⟨-, hf⟩ := Prod.mk.inj h
    obtain rfl := Option.some.inj hf
    exact ⟨cs, List.forall₂_same.mpr fun c _ => .refl c, refreshAll_fault hpass⟩
  | case2 cs next hpass hc ih =>
    rw [settle_of_cleared hpass hc] at h
    obtain ⟨es, hes, hfault⟩ := ih h
    have hfirst := refreshAll_refreshed (valuesOf cs) cs
    rw [hpass] at hfirst
    exact ⟨es, forall₂_trans hfirst hes fun _ _ _ => Refreshed.trans, hfault⟩
  | case3 cs next hpass hc =>
    rw [settle_of_not_cleared hpass hc] at h
    cases (Prod.mk.inj h).2

/-- **Faults of the loop.** A pass reads what the controls held at the start, or null where an
earlier pass has cleared it. -/
theorem settle_fault {done : List Control} (h : settle cs = (done, some e)) :
    e = .integerTooLarge ∧ Overflowing cs := by
  obtain ⟨es, hes, c, hc, hfault⟩ := settle_fault_pass h
  obtain ⟨he, t, ht, v, hv, hoverflows⟩ := allHold_fault hfault
  obtain ⟨c₀, hc₀, hrefreshed⟩ := exists_of_forall₂ hes hc
  obtain ⟨w, hw, hcases⟩ := get?_valuesOf_refreshed hes hv
  refine ⟨he, c₀, hc₀, t, hrefreshed.field ▸ ht, w, hw, ?_⟩
  rcases hcases with rfl | rfl
  · exact .inl hoverflows
  · exact .inr hoverflows

end Control

namespace Form

variable {form : Form}

/-- The controls with new values, before the conditions are tested. -/
def assigned (form : Form) (values : Record) : List Control :=
  form.controls.map (Control.assign values)

/-- The controls with the values that a reset gives them, before the conditions are tested. -/
def restarted (form : Form) (initial : Record) : List Control :=
  form.controls.map fun c => (Control.restart c).patch initial

/-- A fault ends the call after these controls have been written: they stay as they are at that
point, a condition overflows on their values or on null, and no listener is called. -/
structure Interrupted (begun : Form) (cs : List Control) (o : Outcome Unit) : Prop where
  outcome : o = { form := { begun with controls := (Control.settle cs).1 }
                  result := .error (.fault .integerTooLarge) }
  overflowing : Control.Overflowing cs

/-- Settling completes or is interrupted. -/
theorem settle_cases (form : Form) (cs : List Control) (changed : List String) :
    (form.settle cs changed).result = .ok () ∨ Interrupted form cs (form.settle cs changed) := by
  rcases hs : Control.settle cs with ⟨settled, _ | e⟩
  · left
    rw [settle, hs]
  · right
    obtain ⟨rfl, hoverflowing⟩ := Control.settle_fault hs
    refine ⟨?_, hoverflowing⟩
    rw [settle, hs]

/-- An unknown key refuses a change before anything is written. After that only a fault can stop it.
-/
theorem setValues_atomic (form : Form) (values : Record) :
    (form.setValues values).Atomic form ∨
      Interrupted form (form.assigned values) (form.setValues values) := by
  rcases setValues_cases form values with ⟨key, -, heq⟩ | heq
  · left
    rw [heq]
    exact .inr ⟨rfl, rfl⟩
  · rw [heq]
    exact (settle_cases form _ values.keys).imp_left fun hok => .inl ⟨(), hok⟩

/-- **Changes of values.** Every change of one value or several, and every reset, completes or leaves
the form as it was and calls no listener, unless a condition overflows on the values that it has
written or on null. Then it is interrupted: the rest of the form is as it was, but for the initial
values of a reset. -/
theorem changes_atomic (form : Form) :
    (∀ key v, (form.setValue key v).Atomic form ∨
      Interrupted form (form.assigned [(key, v)]) (form.setValue key v)) ∧
    (∀ values, (form.setValues values).Atomic form ∨
      Interrupted form (form.assigned values) (form.setValues values)) ∧
    ∀ given, let initial := given.getD form.initialValues
      (form.reset given).Atomic form ∨
        Interrupted { form with initialValues := initial } (form.restarted initial)
          (form.reset given) := by
  refine ⟨fun key v => setValues_atomic form [(key, v)], setValues_atomic form, fun given => ?_⟩
  intro initial
  have hcases := settle_cases { form with initialValues := initial } (form.restarted initial) form.keys
  exact hcases.imp_left fun hok => .inl ⟨(), hok⟩

/-- A field for an amount. -/
def amountField : Field := { id := "1", type := .number, label := "Amount", key := "amount" }

/-- A field that is shown when the amount is zero. -/
def reasonField : Field where
  id := "2"
  type := .text
  label := "Reason"
  key := "reason"
  conditions := some [{ fieldKey := "amount", operator := .equals, value := .int 0 }]

/-- A form that asks for a reason when the amount is zero. -/
def gated : Definition := { name := "Gated", key := "gated", fields := [amountField, reasonField] }

theorem leadingFields_gated : gated.leadingFields = [amountField, reasonField] := by cbv

/-- The form always has the two controls, whatever has been called. -/
theorem Fits.controls_gated (h : form.Fits gated) :
    ∃ a r, form.controls = [a, r] ∧ a.field = amountField ∧ r.field = reasonField := by
  have hfields := h.fields_eq
  rw [leadingFields_gated] at hfields
  obtain ⟨a, rest, hcontrols, ha, hrest⟩ := List.map_eq_cons_iff.mp hfields
  obtain ⟨r, rest', rfl, hr, hnil⟩ := List.map_eq_cons_iff.mp hrest
  obtain rfl := List.map_eq_nil_iff.mp hnil
  exact ⟨a, r, hcontrols, ha, hr⟩

/-- Whatever has been called before, an amount without a nearest number interrupts the call that sets
it, and stays. -/
theorem setValue_gated (h : Reachable gated form) {n : Int} (hn : (Binary64.ofInt? n).isNone = true) :
    (form.setValue "amount" (.int n)).result = .error (.fault .integerTooLarge) ∧
      (form.setValue "amount" (.int n)).form.getValue "amount" = .ok (.int n) := by
  obtain ⟨a, r, hcontrols, ha, hr⟩ := h.fits.controls_gated
  have hka : a.key = "amount" := by rw [Control.key, ha]; rfl
  have hkr : r.key = "reason" := by rw [Control.key, hr]; rfl
  let written : Control := { a with value := .int n, touched := true }
  have hassigned : form.controls.map (Control.assign [("amount", .int n)]) = [written, r] := by
    simp [hcontrols, Control.assign, hka, hkr, Record.get?_cons, written]
  have hset : form.setValue "amount" (.int n) = form.settle [written, r] ["amount"] := by
    rw [← hassigned]
    simp [setValue, setValues, Record.keys, control?, hcontrols, hka]
  -- the amount has no conditions, and that of the reason reads what has been written
  have hkept : written.refresh (Control.valuesOf [written, r]) = .ok written := by
    rw [Control.refresh, show written.field = amountField from ha]
    rfl
  have htest : r.field.isShown (Control.valuesOf [written, r]) = .error .integerTooLarge := by
    rw [hr]
    refine allHold_cons_of_error ?_
    rw [Condition.holds, Control.valuesOf, List.map_cons, Record.get?_cons,
      if_pos (show _ = written.key from hka.symm)]
    refine Condition.test_eq_error.mpr ⟨?_, rfl⟩
    simp [Condition.overflows, Value.isTooLarge, Value.isCountable, Value.boolAsFloat,
      Value.isScalar, hn, written]
  have hmet : r.refresh (Control.valuesOf [written, r]) = .error .integerTooLarge := by
    rw [Control.refresh, htest, hr]
    rfl
  have hpass : Control.refreshAll (Control.valuesOf [written, r]) [written, r] =
      ([written, r], some .integerTooLarge) := by
    rw [Control.refreshAll, hkept, Control.refreshAll, hmet]
  rw [hset, settle, Control.settle_of_fault hpass]
  refine ⟨rfl, ?_⟩
  have hfound : List.find? (fun c => c.key == "amount") [written, r] = some written :=
    List.find?_cons_of_pos (beq_iff_eq.mpr hka)
  rw [getValue, control, control?, hfound]
  rfl

/-- **Not every change is atomic.** -/
theorem not_atomic_gated :
    ¬∀ d form key v, Reachable d form → (form.setValue key v).Atomic form := by
  intro h
  have hbuild : (build gated []).2.toOption.any (fun form =>
      (form.getValue "amount").toOption.any Value.isNull) = true := by
    cbv
  obtain ⟨form, hb, hbefore⟩ := exists_of_build hbuild
  obtain ⟨hraised, hstays⟩ := setValue_gated (.build hb) (n := 10 ^ 309) (by decide +kernel)
  rcases h gated form "amount" (.int (10 ^ 309)) (.build hb) with ⟨u, hok⟩ | ⟨hform, -⟩
  · rw [hok] at hraised
    cases hraised
  · rw [hform] at hstays
    rw [hstays] at hbefore
    cases hbefore

end Form

end DynamicForm
