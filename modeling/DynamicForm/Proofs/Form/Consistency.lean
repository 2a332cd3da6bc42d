import DynamicForm.Proofs.Form.Reachable
import Mathlib

/-!
# Consistency of settled forms

What a form shows and which checks are in force are kept beside the values and change only when a
pass over the controls finds them out of date. Right after a construction, a change of values or a
reset that returned they are what the values ask for, whatever the conditions refer to and however
earlier calls ended.

- `Form.Settled.agrees`: what is shown agrees with the values, and what is hidden has no value.
- `Form.settled_consistent`: the whole invariant, with the checks in force and the keys.
-/

namespace DynamicForm

theorem Field.isShown_of_not_hasConditions {f : Field} (h : f.hasConditions = false)
    (values : Record) : f.isShown values = .ok true := by
  rw [Field.hasConditions, Bool.not_eq_false', List.isEmpty_iff] at h
  rw [Field.isShown, h]
  rfl

/-- What stands under a key is fixed by the controls with that key. -/
theorem Control.get?_valuesOf_congr {cs es : List Control} {key : String}
    (h : List.Forall₂ (fun c e => e.key = c.key ∧ (c.key = key → e.value = c.value)) cs es) :
    Record.get? (valuesOf es) key = Record.get? (valuesOf cs) key := by
  induction h with
  | nil => rfl
  | @cons c e cs es hce _ ih =>
    obtain ⟨hk, hv⟩ := hce
    simp only [valuesOf, List.map_cons, Record.get?_cons, hk] at ih ⊢
    split
    · next heq => rw [hv heq.symm]
    · exact ih

/-- The value under a key is that of its control. -/
theorem Control.get?_valuesOf {cs : List Control} (hn : (cs.map Control.key).Nodup) {c : Control}
    (hc : c ∈ cs) : Record.get? (valuesOf cs) c.key = some c.value := by
  induction cs with
  | nil => cases hc
  | cons e rest ih =>
    obtain ⟨he, hrest⟩ := List.nodup_cons.mp hn
    rw [valuesOf, List.map_cons, Record.get?_cons]
    rcases List.mem_cons.mp hc with rfl | hc
    · rw [if_pos rfl]
    · have hne : c.key ≠ e.key := by
        intro heq
        exact he (heq ▸ List.mem_map_of_mem hc)
      rw [if_neg hne]
      exact ih hrest hc

/-- Refreshed controls hold what they held, or null. -/
theorem Control.get?_valuesOf_refreshed {cs es : List Control} (h : List.Forall₂ Refreshed cs es)
    {key : String} {v : Value} (hv : Record.get? (valuesOf es) key = some v) :
    ∃ w, Record.get? (valuesOf cs) key = some w ∧ (v = w ∨ v = .null) := by
  induction h with
  | nil => cases hv
  | @cons c e cs es hce _ ih =>
    simp only [valuesOf, List.map_cons, Record.get?_cons, hce.key] at hv ih ⊢
    split at hv
    · next heq =>
      obtain rfl := Option.some.inj hv
      exact ⟨c.value, if_pos heq, hce.value.imp_right And.right⟩
    · next hne =>
      rw [if_neg hne]
      exact ih hv

namespace Form

variable {d : Definition} {form : Form}

/-- What is shown agrees with the values. -/
structure Agrees (form : Form) : Prop where
  shown : ∀ c ∈ form.controls, c.field.isShown form.values = .ok c.visible
  cleared : ∀ c ∈ form.controls, c.visible = false → c.value = .null

/-! ## Reading off the controls

What the definition says of leading fields can be read off the controls of a form that fits. -/

/-- The controls are those of the leading fields, in their order. -/
theorem Fits.fields_eq (h : form.Fits d) : form.controls.map (·.field) = d.leadingFields :=
  Control.serves_fields h.serves

theorem Fits.keys_eq (h : form.Fits d) : form.keys = d.leadingFields.map Field.key := by
  rw [← h.fields_eq, List.map_map]
  rfl

/-- The checks that a control keeps are those of its field. -/
theorem Fits.compiled (h : form.Fits d) {c : Control} (hc : c ∈ form.controls) :
    c.field.checks = .ok c.compiled := by
  obtain ⟨f, -, hf⟩ := exists_of_forall₂ h.serves hc
  obtain rfl := hf.field
  exact hf.compiled

theorem Fits.coherent (h : form.Fits d) {c : Control} (hc : c ∈ form.controls) : c.Coherent := by
  obtain ⟨f, -, hf⟩ := exists_of_forall₂ h.serves hc
  exact hf.coherent

/-- No control is there for a field that does not lead. -/
theorem Fits.leads (h : form.Fits d) {c : Control} (hc : c ∈ form.controls) : d.Leads c.field := by
  apply Definition.leads_of_mem
  rw [← h.fields_eq]
  exact List.mem_map_of_mem hc

/-- A form has each key once, whatever its definition repeats. -/
theorem Fits.nodup_keys (h : form.Fits d) : form.keys.Nodup := by
  rw [h.keys_eq]
  exact d.nodup_keys_leadingFields

/-- A control is found under its key. -/
theorem Fits.control?_eq (h : form.Fits d) {c : Control} (hc : c ∈ form.controls) :
    form.control? c.key = some c := by
  unfold control?
  cases hfind : form.controls.find? fun e => e.key == c.key with
  | none => exact absurd (beq_self_eq_true c.key) (List.find?_eq_none.mp hfind c hc)
  | some e =>
    have hkey : e.key = c.key := by simpa using List.find?_some hfind
    rw [List.inj_on_of_nodup_map h.nodup_keys (List.mem_of_find?_eq_some hfind) hc hkey]

/-! ## Agreement

In a form that agrees with itself nothing that is shown is out of date. Settling brings this about
where it ends by itself, and nothing else does: a fault stops it halfway. -/

/-- A form whose controls have settled agrees with itself. -/
theorem Fits.agrees (h : form.Fits d) {cs : List Control}
    (hs : Control.settle cs = (form.controls, none)) : form.Agrees := by
  refine ⟨fun c hc => ?_, fun c hc hv => ?_⟩
  · cases hf : c.field.hasConditions with
    | true => exact (Control.settle_stable hs c hc hf).1
    | false => rw [Field.isShown_of_not_hasConditions hf, (h.coherent hc).visible hf]
  · cases hf : c.field.hasConditions with
    | true => exact (Control.settle_stable hs c hc hf).2 hv
    | false =>
      rw [(h.coherent hc).visible hf] at hv
      cases hv

/-- The same for a form that a change or a reset leaves. -/
theorem Fits.agrees_settle {cs : List Control} {changed : List String}
    (h : (form.settle cs changed).form.Fits d) (hr : (form.settle cs changed).result = .ok ()) :
    (form.settle cs changed).form.Agrees :=
  h.agrees (settle_eq_of_result hr)

/-- **A settled form agrees with itself.** -/
theorem Settled.agrees (h : Settled d form) : form.Agrees := by
  have hfits := h.reachable.fits
  cases h with
  | build hb =>
    obtain ⟨cs, settled, -, hs, rfl⟩ := build_ok hb
    exact hfits.agrees hs
  | @setValues before values _ hok =>
    rcases setValues_cases before values with ⟨key, -, heq⟩ | heq
    · rw [heq] at hok
      cases hok
    · rw [heq] at hok hfits ⊢
      exact hfits.agrees_settle hok
  | reset initial _ hok => exact hfits.agrees_settle hok

/-- **Consistency.** Right after a construction, a change of values or a reset that returned:
every field is shown exactly if its conditions hold on the values; a hidden one has no value and no
checks; a shown one has the checks of its field; fields lead; and the keys are those of the
definition, each once. -/
theorem settled_consistent (h : Settled d form) :
    (∀ c ∈ form.controls, allHold form.values c.field.conditionList = .ok c.visible) ∧
    (∀ c ∈ form.controls, c.visible = false → c.value = .null ∧ c.checks = []) ∧
    (∀ c ∈ form.controls, c.visible = true → c.field.checks = .ok c.checks) ∧
    (∀ c ∈ form.controls, d.Leads c.field) ∧
    form.keys.Nodup ∧ ∀ key, key ∈ form.keys ↔ key ∈ d.fieldKeys := by
  have hfits := h.reachable.fits
  have hagrees := h.agrees
  refine ⟨hagrees.shown, fun c hc hv => ⟨hagrees.cleared c hc hv, ?_⟩, fun c hc hv => ?_,
    fun c hc => hfits.leads hc, ?_, fun key => ?_⟩
  · rw [(hfits.coherent hc).checks_eq, hv]
    rfl
  · rw [(hfits.coherent hc).checks_eq, hv]
    exact hfits.compiled hc
  · exact hfits.nodup_keys
  · rw [hfits.keys_eq]
    exact Definition.mem_keys_leadingFields

/-- A form with a cycle of conditions, a condition on no field, and a key that two fields share. -/
def tangled : Definition where
  key := "tangled"
  fields := [
    { id := "1", type := .text, key := "left", order := 2
      conditions := some [{ fieldKey := "right", operator := .isNotEmpty }] },
    { id := "2", type := .text, key := "right", order := 1, required := true
      conditions := some [{ fieldKey := "left", operator := .notEquals, value := .text "x" }] },
    { id := "3", type := .number, key := "right", order := 1 },
    { id := "4", type := .text, key := "lost"
      conditions := some [{ fieldKey := "nowhere", operator := .isEmpty }] }]

/-- The invariant after a call that is refused, a submission and a change in which each of two fields
hides the other. -/
theorem settled_consistent_tangled :
    ∃ form, Settled tangled form ∧ form.visibleKeys = ["right"] ∧
      (∀ c ∈ form.controls, allHold form.values c.field.conditionList = .ok c.visible) ∧
      ∀ key, key ∈ form.keys ↔ key ∈ tangled.fieldKeys := by
  let before : List Request := [.setValue "nowhere" .null, .submit ⟨2024, 1, 15⟩]
  let change : Record := [("left", .text "x"), ("right", .text "")]
  have hrun : (build tangled [("right", .text "r"), ("left", .text "l")]).2.toOption.any
      (fun form => ((form.run before).setValues change).result.isOk &&
        decide (((form.run before).setValues change).form.visibleKeys = ["right"])) = true := by
    cbv
  obtain ⟨form, hb, hp⟩ := exists_of_build hrun
  obtain ⟨hok, hkeys⟩ := Bool.and_eq_true_iff.mp hp
  have hs := Settled.setValues change ((Reachable.build hb).run before) (result_of_isOk hok)
  have hc := settled_consistent hs
  exact ⟨_, hs, of_decide_eq_true hkeys, hc.1, hc.2.2.2.2.2⟩

end Form

end DynamicForm
