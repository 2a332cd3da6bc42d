import DynamicForm.Proofs.Form.Submission
import DynamicForm.Proofs.Visibility

/-!
# The reach of a change

A change of values can clear other values, and these can clear further ones. Each step of this goes
from a key to a field with a condition on it. So a change reaches nothing but what depends on the
keys that have been set, whatever cycles there are.

- `Definition.Affected` is the least set of keys that has the changed ones and follows conditions.
- `Control.settle_sameOutside`: the loop leaves controls outside such a set as they are, provided
  that they agreed with the values before.
- `Form.setValues_confined`: a change of values leaves every other field exactly as it was.
-/

namespace DynamicForm

/-- A key that has been changed, or that of a field with a condition on an affected key. Only leading
fields count, since the others have no control. -/
inductive Definition.Affected (d : Definition) (changed : List String) : String → Prop where
  | changed {key : String} : key ∈ changed → Affected d changed key
  | depends {f : Field} {c : Condition} : f ∈ d.leadingFields → c ∈ f.conditionList →
      Affected d changed c.fieldKey → Affected d changed f.key

namespace Control

variable {reached : String → Prop} {cs es : List Control}

/-- The same control, unless the change reaches its key. -/
def SameOutside (reached : String → Prop) (c e : Control) : Prop :=
  e.key = c.key ∧ (¬reached c.key → e = c)

/-- A control that is as the values ask for. -/
structure Settled (values : Record) (c : Control) : Prop where
  shown : c.field.isShown values = .ok c.visible
  cleared : c.visible = false → c.value = .null

/-- Showing a control that is shown, or hiding one that is hidden and empty, changes nothing. -/
theorem present_self {c : Control} (h : c.visible = false → c.value = .null) :
    c.present c.visible = c := by
  obtain ⟨field, compiled, value, checks, visible, touched⟩ := c
  cases visible with
  | true => rfl
  | false =>
    obtain rfl := h rfl
    rfl

/-- **Rest.** A refresh leaves a settled control as it is. -/
theorem Settled.refresh {values : Record} {c : Control} (h : c.Settled values) :
    c.refresh values = .ok c := by
  unfold Control.refresh
  rw [h.shown]
  split
  · exact congrArg Except.ok (present_self h.cleared)
  · rfl

/-- The keys that a change does not reach hold the same values. -/
theorem get?_valuesOf_sameOutside (h : List.Forall₂ (SameOutside reached) cs es) {key : String}
    (hkey : ¬reached key) : Record.get? (valuesOf es) key = Record.get? (valuesOf cs) key := by
  refine get?_valuesOf_congr (h.imp fun c e hce => ⟨hce.1, ?_⟩)
  rintro rfl
  rw [hce.2 hkey]

/-- **One pass.** The controls that are not reached read only values that are not reached, so they
find them as they were, and rest. -/
theorem refreshAll_sameOutside {next : List Control}
    (h : List.Forall₂ (SameOutside reached) cs es)
    (hpass : refreshAll (valuesOf es) es = (next, none))
    (hclosed : ∀ c ∈ cs, ¬reached c.key → ∀ t ∈ c.field.conditionList, ¬reached t.fieldKey)
    (hsettled : ∀ c ∈ cs, c.Settled (valuesOf cs)) :
    List.Forall₂ (SameOutside reached) cs next := by
  have hrests : ∀ c ∈ cs, ¬reached c.key → c.refresh (valuesOf es) = .ok c := by
    intro c hc hkey
    refine Settled.refresh ⟨?_, (hsettled c hc).cleared⟩
    have hread : allHold (valuesOf es) c.field.conditionList =
        allHold (valuesOf cs) c.field.conditionList :=
      allHold_congr fun t ht => get?_valuesOf_sameOutside h (hclosed c hc hkey t ht)
    exact hread.trans (hsettled c hc).shown
  have hrefresh := refreshAll_forall₂ hpass
  -- the induction is on the controls, while the values stay those of the whole pass
  clear hpass hclosed hsettled
  generalize valuesOf es = values at hrests hrefresh
  induction h generalizing next with
  | nil =>
    cases hrefresh
    exact .nil
  | @cons c e _ _ hce _ ih =>
    obtain ⟨hc, hcs⟩ := List.forall_mem_cons.mp hrests
    cases hrefresh with
    | @cons _ d _ _ hr hrest =>
      refine .cons ⟨?_, fun hkey => ?_⟩ (ih hcs hrest)
      · rw [Control.key, refresh_field hr]
        exact hce.1
      · rw [hce.2 hkey, hc hkey] at hr
        exact (Except.ok.inj hr).symm

/-- **The loop.** -/
theorem settle_sameOutside {done : List Control} (h : List.Forall₂ (SameOutside reached) cs es)
    (hs : settle es = (done, none))
    (hclosed : ∀ c ∈ cs, ¬reached c.key → ∀ t ∈ c.field.conditionList, ¬reached t.fieldKey)
    (hsettled : ∀ c ∈ cs, c.Settled (valuesOf cs)) :
    List.Forall₂ (SameOutside reached) cs done := by
  induction es using settle.induct with
  | case1 es next e hpass =>
    rw [settle_of_fault hpass] at hs
    cases (Prod.mk.inj hs).2
  | case2 es next hpass hc ih =>
    rw [settle_of_cleared hpass hc] at hs
    exact ih (refreshAll_sameOutside h hpass hclosed hsettled) hs
  | case3 es next hpass hc =>
    rw [settle_of_not_cleared hpass hc] at hs
    obtain ⟨rfl, -⟩ := Prod.mk.inj hs
    exact refreshAll_sameOutside h hpass hclosed hsettled

/-- A value that is set is set under its key. -/
theorem sameOutside_assign {values : Record} (h : ∀ key ∈ values.keys, reached key) (c : Control) :
    SameOutside reached c (c.assign values) := by
  unfold Control.assign
  cases hv : values.get? c.key with
  | none => exact ⟨rfl, fun _ => rfl⟩
  | some v =>
    exact ⟨rfl, fun hkey => absurd (h c.key (Record.mem_keys_of_get? hv)) hkey⟩

/-- A key that is not reached finds the same control. -/
theorem find?_sameOutside (h : List.Forall₂ (SameOutside reached) cs es) {key : String}
    (hkey : ¬reached key) :
    (es.find? fun e => e.key == key) = cs.find? fun c => c.key == key := by
  induction h with
  | nil => rfl
  | @cons c e _ _ hce _ ih =>
    rw [List.find?_cons, List.find?_cons, hce.1, ih]
    by_cases hk : c.key = key
    · subst hk
      rw [hce.2 hkey]
    · rw [beq_eq_false_iff_ne.mpr hk]

end Control

/-- Whether a call leaves values and what is shown alone. -/
def Request.isIdle : Request → Bool
  | .submit _ => true
  | .subscribe _ => true
  | .unsubscribe _ => true
  | _ => false

namespace Form

variable {d : Definition} {form : Form}

/-! ## Calls that change no value

These leave a settled form as settled as it was, although a submission marks its controls. -/

theorem Agrees.touch (h : form.Agrees) :
    Agrees { form with controls := form.controls.map Control.touch } where
  shown := by
    rw [values_touch]
    exact List.forall_mem_map.mpr h.shown
  cleared := List.forall_mem_map.mpr h.cleared

/-- A form that agrees with itself does so after calls that change no value. -/
theorem Agrees.after (h : form.Agrees) {r : Request} (hr : r.isIdle = true) :
    (form.after r).Agrees := by
  cases r with
  | submit today =>
    rw [Form.after, submit_form]
    exact h.touch
  | subscribe once => exact ⟨h.shown, h.cleared⟩
  | unsubscribe ticket => exact ⟨h.shown, h.cleared⟩
  | setValue key v => cases hr
  | setValues values => cases hr
  | reset initial => cases hr

theorem Agrees.run (h : form.Agrees) {rs : List Request} (hrs : ∀ r ∈ rs, r.isIdle = true) :
    (form.run rs).Agrees := by
  induction rs generalizing form with
  | nil => exact h
  | cons r rest ih =>
    obtain ⟨hr, hrest⟩ := List.forall_mem_cons.mp hrs
    exact ih (h.after hr) hrest

/-! ## What a change reaches

Outside the affected keys the form was settled before the change, and nothing that is read there has
changed; so there is nothing for a pass to do. -/

/-- In a form that agrees with itself every control is as the values ask for. -/
theorem Agrees.settled (h : form.Agrees) {c : Control} (hc : c ∈ form.controls) :
    c.Settled (Control.valuesOf form.controls) :=
  ⟨h.shown c hc, h.cleared c hc⟩

/-- A change of values that returns leaves alone every control whose key is not affected. -/
theorem Fits.setValues_sameOutside (h : form.Fits d) (ha : form.Agrees) {values : Record}
    (hok : (form.setValues values).result = .ok ()) :
    List.Forall₂ (Control.SameOutside (d.Affected values.keys)) form.controls
      (form.setValues values).form.controls := by
  rcases setValues_cases form values with ⟨key, -, heq⟩ | heq
  · rw [heq] at hok
    cases hok
  · rw [heq] at hok ⊢
    refine Control.settle_sameOutside ?_ (settle_eq_of_result hok) ?_ fun c hc => ha.settled hc
    · exact List.forall₂_map_right_iff.mpr (List.forall₂_same.mpr fun c _ =>
        Control.sameOutside_assign (fun _ => .changed) c)
    · intro c hc hkey t ht hreached
      have hfield : c.field ∈ d.leadingFields := h.fields_eq ▸ List.mem_map_of_mem hc
      exact hkey (.depends hfield ht hreached)

/-- **A change stays within its reach.** Let a form be settled, and submitted or listened to any
number of times since. When a change of values returns, every key that it does not affect has
exactly the control that it had, with its value, its checks, its mark and what is shown of it, and
fails what it failed before. -/
theorem setValues_confined (h : Settled d form) {idle : List Request}
    (hidle : ∀ r ∈ idle, r.isIdle = true) {values : Record}
    (hok : ((form.run idle).setValues values).result = .ok ()) :
    ∀ key, ¬d.Affected values.keys key →
      ((form.run idle).setValues values).form.control? key = (form.run idle).control? key ∧
      ∀ today, failuresOf today ((form.run idle).setValues values).form key =
        failuresOf today (form.run idle) key := by
  intro key hkey
  have hfits : (form.run idle).Fits d := (h.reachable.run idle).fits
  have hsame := hfits.setValues_sameOutside (h.agrees.run hidle) hok
  have hcontrol : ((form.run idle).setValues values).form.control? key =
      (form.run idle).control? key := Control.find?_sameOutside hsame hkey
  refine ⟨hcontrol, fun today => ?_⟩
  simp only [failuresOf, control, hcontrol]

/-- A form in which one answer asks for a second and that for a third, beside another pair. -/
def branched : Definition where
  key := "branched"
  fields := [
    { id := "1", type := .text, key := "kind" },
    { id := "2", type := .text, key := "detail"
      conditions := some [{ fieldKey := "kind", operator := .equals, value := .text "x" }] },
    { id := "3", type := .text, key := "note"
      conditions := some [{ fieldKey := "detail", operator := .isNotEmpty }] },
    { id := "4", type := .text, key := "other" },
    { id := "5", type := .text, key := "aside"
      conditions := some [{ fieldKey := "other", operator := .isNotEmpty }] }]

/-- The first answer affects only the two that follow from it. -/
theorem affected_branched {key : String} (h : branched.Affected ["kind"] key) :
    key ∈ ["kind", "detail", "note"] := by
  induction h with
  | changed hmem => exact List.mem_cons.mpr (.inl (List.mem_singleton.mp hmem))
  | @depends f c hf hc _ ih =>
    have hf := (Definition.leads_of_mem hf).mem_fields
    simp only [branched, List.mem_cons, List.not_mem_nil, or_false] at hf
    rcases hf with rfl | rfl | rfl | rfl | rfl <;> simp_all [Field.conditionList]

/-- A change that hides two fields, one because of the other, and leaves the other pair alone. -/
theorem setValues_confined_branched :
    ∃ form, Settled branched form ∧ form.visibleKeys = ["kind", "detail", "note", "other", "aside"] ∧
      let before := form.run [.submit ⟨2024, 1, 15⟩]
      let after := (before.setValues [("kind", .text "y")]).form
      after.visibleKeys = ["kind", "other", "aside"] ∧
      after.control? "aside" = before.control? "aside" ∧
      failuresOf ⟨2024, 1, 15⟩ after "aside" = failuresOf ⟨2024, 1, 15⟩ before "aside" := by
  have hbuild : (build branched [("kind", .text "x"), ("detail", .text "d"), ("note", .text "n"),
      ("other", .text "o"), ("aside", .text "a")]).2.toOption.any (fun form =>
        decide (form.visibleKeys = ["kind", "detail", "note", "other", "aside"]) &&
        ((form.run [.submit ⟨2024, 1, 15⟩]).setValues [("kind", .text "y")]).result.isOk &&
        decide (((form.run [.submit ⟨2024, 1, 15⟩]).setValues
          [("kind", .text "y")]).form.visibleKeys = ["kind", "other", "aside"])) = true := by
    cbv
  obtain ⟨form, hb, hp⟩ := exists_of_build hbuild
  simp only [Bool.and_eq_true, decide_eq_true_eq] at hp
  obtain ⟨⟨hbefore, hok⟩, hafter⟩ := hp
  have haside : ¬branched.Affected ["kind"] "aside" := by
    intro h
    exact absurd (affected_branched h) (by decide)
  obtain ⟨hcontrol, hfailures⟩ := setValues_confined (.build hb)
    (List.forall_mem_singleton.mpr rfl) (result_of_isOk hok) "aside" haside
  exact ⟨form, .build hb, hbefore, hafter, hcontrol, hfailures _⟩

end Form

end DynamicForm
