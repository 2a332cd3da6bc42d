import DynamicForm.Proofs.Form.Atomicity
import DynamicForm.Proofs.Form.Influence
import DynamicForm.Proofs.Form.Restoring

/-!
# Assigned values

A change of values writes them all at once, and then passes over the controls take values away. The
first pass reads what has just been written, and each later one less of it. So a field keeps the
value that it has been given if its conditions hold on the values at the beginning and on those in
the end: what a pass reads in between is pieced together of these two.

A field that ends up visible can still lose its value. It is enough that its conditions fail at the
beginning, on a value that is itself cleared; the field is shown again, but its value is gone.

- `Control.settle_value`: the value that the loop leaves of a control.
- `Form.setValues_assigned`: what a change of values leaves of the values that are given.
-/

namespace DynamicForm

namespace Control

variable {start cs done : List Control}

/-- In between, a control holds what it held at the start or what it holds in the end. -/
theorem get?_valuesOf_between (h₁ : List.Forall₂ Refreshed start cs)
    (h₂ : List.Forall₂ Refreshed cs done) (key : String) :
    Record.get? (valuesOf cs) key = Record.get? (valuesOf start) key ∨
      Record.get? (valuesOf cs) key = Record.get? (valuesOf done) key := by
  induction h₁ generalizing done with
  | nil => exact .inl rfl
  | @cons b c _ _ hbc _ ih =>
    cases h₂ with
    | @cons _ d _ _ hcd hrest =>
      simp only [valuesOf, List.map_cons, Record.get?_cons, hcd.key, hbc.key] at ih ⊢
      split
      · rcases hbc.value with hkept | ⟨-, hlost⟩
        · exact .inl (congrArg some hkept)
        · -- a value that is gone stays away
          right
          rcases hcd.value with hkept | ⟨-, hlost'⟩
          · rw [hkept]
          · rw [hlost, hlost']
      · exact ih hrest

/-- **One pass.** It takes no value from a control that is shown at the start and in the end. -/
theorem refreshAll_keeps {next : List Control} (h₁ : List.Forall₂ Refreshed start cs)
    (h₂ : List.Forall₂ Refreshed cs done) (hpass : refreshAll (valuesOf cs) cs = (next, none)) :
    List.Forall₂ (fun c d => c.field.isShown (valuesOf start) = .ok true →
      c.field.isShown (valuesOf done) = .ok true → d.value = c.value) cs next := by
  refine (refreshAll_forall₂ hpass).imp fun c d hrefresh hstart hend => ?_
  rcases refresh_cases hrefresh with ⟨-, rfl⟩ | ⟨-, shown, hshown, rfl⟩
  · rfl
  · have hmixed : c.field.isShown (valuesOf cs) = .ok true :=
      allHold_of_mixed (get?_valuesOf_between h₁ h₂) hstart hend
    rw [hmixed] at hshown
    obtain rfl := Except.ok.inj hshown
    exact present_value true c

/-- **The loop.** It takes no value from a control that is shown at the start and in the end. The
induction is on the passes, while the start stays that of the first. -/
theorem settle_keeps (h : List.Forall₂ Refreshed start cs) (hs : settle cs = (done, none)) :
    List.Forall₂ (fun c d => c.field.isShown (valuesOf start) = .ok true →
      c.field.isShown (valuesOf done) = .ok true → d.value = c.value) cs done := by
  have hdone := settle_refreshed cs
  rw [hs] at hdone
  induction cs using settle.induct with
  | case1 cs next e hpass =>
    rw [settle_of_fault hpass] at hs
    cases (Prod.mk.inj hs).2
  | case2 cs next hpass hc ih =>
    rw [settle_of_cleared hpass hc] at hs
    have hnext := refreshAll_refreshed (valuesOf cs) cs
    rw [hpass] at hnext
    have hrest := settle_refreshed next
    rw [hs] at hrest
    have hlater := ih (forall₂_trans h hnext fun _ _ _ => Refreshed.trans) hs hrest
    have hfirst := (refreshAll_keeps h hdone hpass).mp
      (fun _ _ hkeep hr => And.intro hkeep hr) hnext
    refine forall₂_trans hfirst hlater fun c d e hcd hde hstart hend => ?_
    -- the value survives this pass, and then all the later ones
    obtain ⟨hkept, hr⟩ := hcd
    calc e.value = d.value := hde (hr.field ▸ hstart) (hr.field ▸ hend)
      _ = c.value := hkept hstart hend
  | case3 cs next hpass hc =>
    rw [settle_of_not_cleared hpass hc] at hs
    obtain ⟨rfl, -⟩ := Prod.mk.inj hs
    exact refreshAll_keeps h hdone hpass

/-- The first pass tests every condition, and a control that it hides has no value from then on. -/
theorem settle_tests (hs : settle cs = (done, none)) :
    List.Forall₂ (fun c d => ∃ shown, c.field.isShown (valuesOf cs) = .ok shown ∧
      (shown = false → d.value = .null)) cs done := by
  obtain ⟨next, hpass, hrest⟩ := settle_first hs
  refine forall₂_trans (refreshAll_forall₂ hpass) hrest fun c d e hrefresh hde => ?_
  rcases refresh_cases hrefresh with ⟨hno, rfl⟩ | ⟨-, shown, hshown, rfl⟩
  · refine ⟨true, Field.isShown_of_not_hasConditions hno _, ?_⟩
    intro hfalse
    cases hfalse
  · refine ⟨shown, hshown, ?_⟩
    rintro rfl
    rcases hde.value with hkept | ⟨-, hlost⟩
    · exact hkept
    · exact hlost

/-- **What is left of a value.** The control keeps it when it is shown at the start and in the end,
and loses it when it is hidden at the start. -/
theorem settle_value (hs : settle cs = (done, none)) :
    List.Forall₂ (fun c d => d.field = c.field ∧ ∃ shown,
      c.field.isShown (valuesOf cs) = .ok shown ∧ (shown = false → d.value = .null) ∧
      (shown = true → c.field.isShown (valuesOf done) = .ok true → d.value = c.value)) cs done := by
  have hrefreshed := settle_refreshed cs
  rw [hs] at hrefreshed
  have hkeeps := settle_keeps (List.forall₂_same.mpr fun c _ => .refl c) hs
  have hboth := (settle_tests hs).mp (fun c d htest hkeep => And.intro htest hkeep) hkeeps
  refine hrefreshed.mp ?_ hboth
  rintro c d hr ⟨⟨shown, hshown, hlost⟩, hkeep⟩
  refine ⟨hr.field, shown, hshown, hlost, ?_⟩
  rintro rfl hend
  exact hkeep hshown hend

/-- A key finds its control on both sides. -/
theorem find?_of_forall₂ {r : Control → Control → Prop} {es : List Control}
    (h : List.Forall₂ r cs es) (hr : ∀ c e, r c e → e.key = c.key) {key : String} {c : Control}
    (hc : cs.find? (fun c => c.key == key) = some c) :
    ∃ e, es.find? (fun e => e.key == key) = some e ∧ r c e := by
  induction h with
  | nil => cases hc
  | @cons a b _ _ hab _ ih =>
    rw [List.find?_cons] at hc ⊢
    rw [hr a b hab]
    cases hk : a.key == key with
    | true =>
      rw [hk] at hc
      obtain rfl := Option.some.inj hc
      exact ⟨b, rfl, hab⟩
    | false =>
      rw [hk] at hc
      exact ih hc

end Control

namespace Form

variable {d : Definition} {form : Form}

/-- The values as a change writes them, before anything is cleared. -/
def overwritten (form : Form) (values : Record) : Record :=
  form.values.map fun e => (e.1, (values.get? e.1).getD e.2)

theorem assign_value (values : Record) (c : Control) :
    (c.assign values).value = (values.get? c.key).getD c.value := by
  unfold Control.assign
  cases values.get? c.key <;> rfl

/-- What is assigned is a value and nothing else of the field. -/
theorem assign_field (values : Record) (c : Control) : (c.assign values).field = c.field := by
  unfold Control.assign
  cases values.get? c.key <;> rfl

theorem valuesOf_assigned (form : Form) (values : Record) :
    Control.valuesOf (form.assigned values) = form.overwritten values := by
  simp only [Control.valuesOf, assigned, overwritten, Form.values, List.map_map]
  refine List.map_congr_left fun c _ => ?_
  simp only [Function.comp_apply, assign_value, Control.key, assign_field]

/-- A change that returns has settled the controls with the new values. -/
theorem settle_of_setValues {values : Record} (hok : (form.setValues values).result = .ok ()) :
    Control.settle (form.assigned values) = ((form.setValues values).form.controls, none) := by
  rcases setValues_cases form values with ⟨key, -, heq⟩ | heq
  · rw [heq] at hok
    cases hok
  · rw [heq] at hok ⊢
    exact settle_eq_of_result hok

/-- A change that returns names no unknown key. -/
theorem control?_of_setValues {values : Record} (hok : (form.setValues values).result = .ok ())
    {key : String} (hkey : key ∈ values.keys) : ∃ c, form.control? key = some c := by
  unfold setValues at hok
  cases hfind : values.keys.find? fun k => (form.control? k).isNone with
  | some k =>
    rw [hfind] at hok
    cases hok
  | none =>
    have hsome : form.control? key ≠ none := by
      simpa using List.find?_eq_none.mp hfind key hkey
    exact Option.ne_none_iff_exists'.mp hsome

/-- **Assigned values.** When a change of values returns, a field whose key it names holds exactly
the value that it has been given if the field is visible and its conditions hold also on the values
as the change has written them, and null otherwise. -/
theorem setValues_assigned (h : Reachable d form) {values : Record}
    (hok : (form.setValues values).result = .ok ()) :
    ∀ key v, values.get? key = some v →
      ∃ c shown, (form.setValues values).form.control? key = some c ∧
        c.field.isShown (form.overwritten values) = .ok shown ∧
        c.value = if c.visible && shown then v else .null := by
  intro key v hv
  obtain ⟨c₀, hc₀⟩ := control?_of_setValues hok (Record.mem_keys_of_get? hv)
  have hk₀ : c₀.key = key := by simpa using List.find?_some hc₀
  have hassigned : List.Forall₂ (fun c e => e = c.assign values) form.controls
      (form.assigned values) :=
    List.forall₂_map_right_iff.mpr (List.forall₂_same.mpr fun _ _ => rfl)
  -- from the control before, through the one with the new value, to the one that is left
  have hpairs := forall₂_trans hassigned (Control.settle_value (settle_of_setValues hok))
    (t := fun c e => e.field = c.field ∧ ∃ shown,
      e.field.isShown (form.overwritten values) = .ok shown ∧
      (shown = false → e.value = .null) ∧
      (shown = true → e.field.isShown (form.setValues values).form.values = .ok true →
        e.value = (c.assign values).value))
    (by
      rintro c _ e rfl ⟨hfield, shown, hshown, hlost, hkept⟩
      rw [← hfield] at hshown hkept
      rw [valuesOf_assigned] at hshown
      exact ⟨hfield.trans (assign_field values c), shown, hshown, hlost, hkept⟩)
  obtain ⟨c, hc, -, shown, hshown, hlost, hkept⟩ := Control.find?_of_forall₂ hpairs
    (fun c e hce => by rw [Control.key, Control.key, hce.1]) hc₀
  -- what is shown in the end is what the values show in the end
  have hvisible := (Settled.setValues values h hok).agrees
  have hcmem : c ∈ (form.setValues values).form.controls := List.mem_of_find?_eq_some hc
  have hgiven : (c₀.assign values).value = v := by
    rw [assign_value, hk₀, hv]
    rfl
  rw [hvisible.shown c hcmem, hgiven] at hkept
  refine ⟨c, shown, hc, hshown, ?_⟩
  cases hcv : c.visible with
  | false => exact hvisible.cleared c hcmem hcv
  | true =>
    cases shown with
    | false => exact hlost rfl
    | true => exact hkept rfl (congrArg _ hcv)

/-- Two fields that are hidden are given their values in the call that shows them. -/
theorem setValues_assigned_branched :
    let change : Record := [("note", .text "n"), ("detail", .text "d"), ("kind", .text "x")]
    ∃ form, (build branched []).2 = .ok form ∧ form.visibleKeys = ["kind", "other"] ∧
      (form.setValues change).result = .ok () ∧
      ∃ c, (form.setValues change).form.control? "note" = some c ∧ c.visible = true ∧
        c.value = .text "n" := by
  intro change
  have hrun : (build branched []).2.toOption.any (fun form =>
      decide (form.visibleKeys = ["kind", "other"]) && (form.setValues change).result.isOk &&
        ((form.setValues change).form.control? "note").all fun c =>
          c.visible && decide ((c.field.isShown (form.overwritten change)).toOption = some true)) =
        true := by
    cbv
  obtain ⟨form, hb, hp⟩ := exists_of_build hrun
  simp only [Bool.and_eq_true, decide_eq_true_eq] at hp
  obtain ⟨⟨hbefore, hok⟩, hnote⟩ := hp
  -- the condition of the note holds with the overwritten values, so it keeps what it is given
  obtain ⟨c, shown, hc, htest, hvalue⟩ := setValues_assigned (.build hb) (result_of_isOk hok)
    "note" (.text "n") rfl
  rw [hc, Option.all_some, htest, Bool.and_eq_true, decide_eq_true_eq] at hnote
  obtain ⟨hvisible, hshown⟩ := hnote
  obtain rfl : shown = true := Option.some.inj hshown
  rw [hvisible] at hvalue
  exact ⟨form, hb, hbefore, result_of_isOk hok, c, hc, hvisible, hvalue⟩

/-- **A visible field can lose the value that it is given**: the hint, before it is hidden, hides
the answer for the time of one pass. -/
theorem lost_shadowed :
    ¬∀ d : Definition, d.problems = [] → d.Acyclic → ∀ form, Settled d form → ∀ values,
      (form.setValues values).result = .ok () →
      ∀ c ∈ (form.setValues values).form.controls, ∀ v, values.get? c.key = some v →
        (c.visible = true → c.value = v) ∧ (v ≠ .null → c.value = .null → c.visible = false) := by
  intro h
  let change : Record := [("topic", .text ""), ("answer", .text "v")]
  have hrun : (build shadowed [("topic", .text "t")]).2.toOption.any (fun form =>
      (form.setValues change).result.isOk && (form.setValues change).form.controls.any fun c =>
        decide (c.key = "answer") && (c.visible && c.value.isNull)) = true := by
    cbv
  obtain ⟨form, hb, hp⟩ := exists_of_build hrun
  obtain ⟨hok, hlost⟩ := Bool.and_eq_true_iff.mp hp
  obtain ⟨c, hc, hc'⟩ := List.any_eq_true.mp hlost
  simp only [Bool.and_eq_true, decide_eq_true_eq, Value.isNull_eq_true] at hc'
  obtain ⟨hkey, hvisible, hnull⟩ := hc'
  -- the change gives the answer a value, and the field that is shown has none
  have hgiven : change.get? c.key = some (.text "v") := by
    rw [hkey]
    rfl
  have hkept := (h shadowed rfl acyclic_shadowed form (.build hb) change (result_of_isOk hok) c hc
    _ hgiven).1 hvisible
  rw [hnull] at hkept
  cases hkept

end Form

end DynamicForm
