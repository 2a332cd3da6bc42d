import DynamicForm.Proofs.Definition.Dependency
import DynamicForm.Proofs.Form.Consistency
import DynamicForm.Proofs.Visibility

/-!
# Restoring

The answers of a form hold the values of the fields that are shown. A form that is built from them
starts a hidden field not without a value but with its default, and the first pass over the controls
reads that default before it hides the field again. A field whose conditions fail on it loses its
value, and no later pass gives the value back.

- `Definition.startingValues` are the values that the first pass reads.
- `Control.follows_settle`: when every control that held a value is shown on them, no pass takes away
  a value, since the values that a later pass reads are partly those of the first pass and partly
  those of the form that was saved.
- `Form.restored_iff`: without cycles of conditions that is exactly when the form comes back.
-/

namespace DynamicForm

/-- The value that a field starts with in a form that is built from saved answers. -/
def Field.startingValue (saved : Record) (f : Field) : Value :=
  (saved.get? f.key).getD f.initialValue

namespace Definition

/-- The values that the first pass reads in a form that is built from saved answers. -/
def startingValues (d : Definition) (saved : Record) : Record :=
  d.leadingFields.map fun f => (f.key, f.startingValue saved)

/-- Every condition can be tested on the value of its key and on null. -/
def Testable (d : Definition) (values : Record) : Prop :=
  ∀ f ∈ d.fields, ∀ c ∈ f.conditionList, ∀ v,
    values.get? c.fieldKey = some v ∨ v = .null → ∃ b, c.test v = .ok b

end Definition

/-- Two forms show the same fields and have the same answers. -/
def Form.Alike (form again : Form) : Prop :=
  again.visibility = form.visibility ∧ again.answers = form.answers

/-! ## Controls side by side

The form that was saved and the one that is being built have controls for the same fields. In
between two passes, each control of the new form holds a value of one of two kinds. -/

namespace Control

variable {cs es : List Control}

/-- Where every control has one of two values, so has every key. -/
theorem get?_valuesOf_cases (start : Control → Value)
    (h : List.Forall₂ (fun c e => e.key = c.key ∧ (e.value = start c ∨ e.value = c.value)) cs es)
    (key : String) :
    Record.get? (valuesOf es) key = Record.get? (cs.map fun c => (c.key, start c)) key ∨
      Record.get? (valuesOf es) key = Record.get? (valuesOf cs) key := by
  induction h with
  | nil => exact .inl rfl
  | @cons c e cs es hce _ ih =>
    obtain ⟨hk, hv⟩ := hce
    simp only [valuesOf, List.map_cons, Record.get?_cons, hk] at ih ⊢
    split
    · exact hv.imp (congrArg some) (congrArg some)
    · exact ih

/-! ## Passes that take no value away

The invariant is `Follows`. It speaks of the values only: what is shown in between is of no account,
since a pass decides it anew. -/

/-- A control of a form that is being built beside one of the form that was saved: it has still the
value that it started with, or already that of the other. -/
structure Follows (saved : Record) (c e : Control) : Prop where
  field : e.field = c.field
  value : e.value = c.field.startingValue saved ∨ e.value = c.value

theorem Follows.key {saved : Record} {c e : Control} (h : Follows saved c e) : e.key = c.key := by
  rw [Control.key, Control.key, h.field]

/-- **One refresh.** -/
theorem Follows.refresh {saved values : Record} {c e e' : Control} (h : Follows saved c e)
    (hr : e.refresh values = .ok e')
    (hshown : c.value ≠ .null → c.field.isShown values = .ok true) : Follows saved c e' := by
  rcases refresh_cases hr with ⟨-, rfl⟩ | ⟨-, shown, hs, rfl⟩
  · exact h
  · refine ⟨(present_field shown e).trans h.field, ?_⟩
    rw [present_value]
    cases shown with
    | true => exact h.value
    | false =>
      right
      by_contra hne
      have htrue := hshown (Ne.symm hne)
      rw [← h.field, hs] at htrue
      cases htrue

/-- **One pass.** What each pass reads is pieced together of the values at the start and of those in
the end; so a control that is shown on both keeps its value. -/
theorem follows_refreshAll {saved : Record} {next : List Control}
    (h : List.Forall₂ (Follows saved) cs es) (hpass : refreshAll (valuesOf es) es = (next, none))
    (hstart : ∀ c ∈ cs, c.value ≠ .null →
      c.field.isShown (cs.map fun c => (c.key, c.field.startingValue saved)) = .ok true)
    (hend : ∀ c ∈ cs, c.value ≠ .null → c.field.isShown (valuesOf cs) = .ok true) :
    List.Forall₂ (Follows saved) cs next := by
  have hmixed := get?_valuesOf_cases (fun c => c.field.startingValue saved)
    (h.imp fun c e hce => ⟨hce.key, hce.value⟩)
  have hshown : ∀ c ∈ cs, c.value ≠ .null → c.field.isShown (valuesOf es) = .ok true :=
    fun c hc hv => allHold_of_mixed hmixed (hstart c hc hv) (hend c hc hv)
  have hrefresh := refreshAll_forall₂ hpass
  -- the induction is on the controls, while the values stay those of the whole pass
  clear hpass hmixed hstart hend
  generalize valuesOf es = values at hshown hrefresh
  induction h generalizing next with
  | nil =>
    cases hrefresh
    exact .nil
  | cons hce _ ih =>
    obtain ⟨hc, hcs⟩ := List.forall_mem_cons.mp hshown
    cases hrefresh with
    | cons hr hrest => exact .cons (hce.refresh hr hc) (ih hcs hrest)

/-- **The loop.** -/
theorem follows_settle {saved : Record} {done : List Control}
    (h : List.Forall₂ (Follows saved) cs es) (hs : settle es = (done, none))
    (hstart : ∀ c ∈ cs, c.value ≠ .null →
      c.field.isShown (cs.map fun c => (c.key, c.field.startingValue saved)) = .ok true)
    (hend : ∀ c ∈ cs, c.value ≠ .null → c.field.isShown (valuesOf cs) = .ok true) :
    List.Forall₂ (Follows saved) cs done := by
  induction es using settle.induct with
  | case1 es next e hpass =>
    rw [settle_of_fault hpass] at hs
    cases (Prod.mk.inj hs).2
  | case2 es next hpass hc ih =>
    rw [settle_of_cleared hpass hc] at hs
    exact ih (follows_refreshAll h hpass hstart hend) hs
  | case3 es next hpass hc =>
    rw [settle_of_not_cleared hpass hc] at hs
    obtain ⟨rfl, -⟩ := Prod.mk.inj hs
    exact follows_refreshAll h hpass hstart hend

/-- The first pass of a loop that no fault ends. -/
theorem settle_first {done : List Control} (h : settle cs = (done, none)) :
    ∃ next, refreshAll (valuesOf cs) cs = (next, none) ∧ List.Forall₂ Refreshed next done := by
  rcases hpass : refreshAll (valuesOf cs) cs with ⟨next, _ | e⟩
  · refine ⟨next, rfl, ?_⟩
    by_cases hc : hasCleared cs next = true
    · have hrest := settle_refreshed next
      rwa [← settle_of_cleared hpass hc, h] at hrest
    · rw [settle_of_not_cleared hpass hc] at h
      obtain ⟨rfl, -⟩ := Prod.mk.inj h
      exact List.forall₂_same.mpr fun c _ => .refl c
  · rw [settle_of_fault hpass] at h
    cases (Prod.mk.inj h).2

end Control

namespace Form

variable {d : Definition} {form again : Form}

/-! ## What the new form starts with

A field that was hidden has no answer, so it starts with its default. That is the only difference to
the form that was saved, and the only way in which the new form can go astray. -/

theorem Fits.startingValues_eq (h : form.Fits d) (saved : Record) :
    d.startingValues saved = form.controls.map fun c => (c.key, c.field.startingValue saved) := by
  rw [Definition.startingValues, ← h.fields_eq, List.map_map]
  rfl

/-- A field that is shown starts with the value that it had. -/
theorem Fits.startingValue_of_visible (h : form.Fits d) {c : Control} (hc : c ∈ form.controls)
    (hv : c.visible = true) : c.field.startingValue form.answers = c.value := by
  have hvisible : c ∈ form.visibleControls := List.mem_filter.mpr ⟨hc, hv⟩
  have hn : (form.visibleControls.map Control.key).Nodup :=
    h.nodup_keys.sublist (List.filter_sublist.map Control.key)
  have hsaved : form.answers.get? c.field.key = some c.value := Control.get?_valuesOf hn hvisible
  rw [Field.startingValue, hsaved]
  rfl

theorem patch_fresh_value (saved : Record) (f : Field) (checks : List Check) :
    ((Control.fresh f checks).patch saved).value = f.startingValue saved := by
  have hkey : (Control.fresh f checks).key = f.key := rfl
  rw [Control.patch, Field.startingValue, hkey]
  cases saved.get? f.key <;> rfl

theorem patch_field (saved : Record) (c : Control) : (c.patch saved).field = c.field := by
  rw [Control.patch]
  split <;> rfl

/-- The controls that the first pass begins with. -/
theorem Fits.starting (h : form.Fits d) (saved : Record) {cs : List Control}
    (hcs : (controlsFor d.key [] d.sortedFields).2 = .ok cs) :
    List.Forall₂ (fun c e => e.field = c.field ∧ e.value = c.field.startingValue saved)
      form.controls (cs.map (Control.patch saved)) := by
  have hfresh := controlsFor_leadingFields hcs
  rw [← h.fields_eq, List.forall₂_map_left_iff] at hfresh
  refine List.forall₂_map_right_iff.mpr (hfresh.imp ?_)
  rintro c e ⟨checks, -, rfl⟩
  exact ⟨patch_field .., patch_fresh_value ..⟩

/-- The values at the start are those of the controls. -/
theorem valuesOf_starting {saved : Record} {cs es : List Control}
    (h : List.Forall₂ (fun c e => e.field = c.field ∧ e.value = c.field.startingValue saved) cs es) :
    Control.valuesOf es = cs.map fun c => (c.key, c.field.startingValue saved) := by
  induction h with
  | nil => rfl
  | cons hce _ ih =>
    simp only [Control.valuesOf, List.map_cons, Control.key, hce.1, hce.2] at ih ⊢
    rw [ih]

/-- **The new form** is settled from controls of the same fields with the starting values. -/
theorem Fits.build_starting (h : form.Fits d) {saved : Record}
    (hb : (build d saved).2 = .ok again) :
    ∃ es, Control.settle es = (again.controls, none) ∧
      Control.valuesOf es = d.startingValues saved ∧
      List.Forall₂ (fun c e => e.field = c.field ∧ e.value = c.field.startingValue saved)
        form.controls es := by
  obtain ⟨cs, settled, hcs, hs, rfl⟩ := build_ok hb
  have hstart := h.starting saved hcs
  refine ⟨cs.map (Control.patch saved), hs, ?_, hstart⟩
  rw [h.startingValues_eq, valuesOf_starting hstart]

/-- **No fault.** The new form is built when every condition can be tested on its starting value and
on null, since a pass gives no other value. -/
theorem Fits.build_returns (h : form.Fits d) (hr : Reachable d form) {saved : Record}
    (ht : d.Testable (d.startingValues saved)) : ∃ again, (build d saved).2 = .ok again := by
  obtain ⟨cs, hcs⟩ := hr.controlsFor_returns
  have hstart := h.starting saved hcs
  have hsettle : ∃ done, Control.settle (cs.map (Control.patch saved)) = (done, none) := by
    refine Control.settle_returns fun es hes e he => allHold_returns fun t htest => ?_
    -- passes leave the fields as they are, and these come from the definition
    have hmem : e.field ∈ d.fields := by
      obtain ⟨e₀, he₀, hrefreshed⟩ := exists_of_forall₂ hes he
      obtain ⟨c, hc, hfield, -⟩ := exists_of_forall₂ hstart he₀
      rw [hrefreshed.field, hfield]
      exact (h.leads hc).mem_fields
    rw [Condition.holds]
    cases hv : Record.get? (Control.valuesOf es) t.fieldKey with
    | none => exact ⟨false, rfl⟩
    | some v =>
      obtain ⟨w, hw, hcases⟩ := Control.get?_valuesOf_refreshed hes hv
      refine ht e.field hmem t htest v (hcases.imp_left fun heq => ?_)
      rw [h.startingValues_eq, ← valuesOf_starting hstart, heq]
      exact hw
  obtain ⟨done, hdone⟩ := hsettle
  refine ⟨{ definition := d, initialValues := saved, controls := done }, ?_⟩
  simp only [build, hcs, hdone]

/-! ## When the form comes back

One direction is the invariant of the loop, together with an induction over dependencies: two forms
that agree with themselves and hold the same where it matters show the same. The other direction
looks at the first pass alone. What it hides has lost its value for good. -/

/-- Forms whose controls agree in pairs are alike. -/
theorem alike_of_forall₂ (h : List.Forall₂ (fun c e => e.key = c.key ∧ e.visible = c.visible ∧
    e.value = c.value) form.controls again.controls) : form.Alike again := by
  unfold Alike visibility answers visibleControls
  generalize form.controls = cs at h
  generalize again.controls = es at h
  induction h with
  | nil => exact ⟨rfl, rfl⟩
  | cons hce _ ih =>
    obtain ⟨hk, hv, hvalue⟩ := hce
    obtain ⟨ihshown, ihanswers⟩ := ih
    refine ⟨by rw [List.map_cons, List.map_cons, hk, hv, ihshown], ?_⟩
    rw [List.filter_cons, List.filter_cons, hv]
    split
    · simp only [Control.valuesOf, List.map_cons, hk, hvalue] at ihanswers ⊢
      rw [ihanswers]
    · exact ihanswers

/-- A form that follows another and agrees with itself is like it. The induction is over
dependencies: what a field shows is fixed by the values of the keys that it depends on. -/
theorem Fits.alike_of_follows (h : form.Fits d) (hd : d.Acyclic) (ha : form.Agrees)
    (hagain : again.Agrees)
    (hf : List.Forall₂ (Control.Follows form.answers) form.controls again.controls) :
    form.Alike again := by
  obtain ⟨hlength, hfollows⟩ := List.forall₂_iff_zip.mp hf
  have hsame : ∀ key, ∀ c e, (c, e) ∈ form.controls.zip again.controls → c.key = key →
      e.visible = c.visible ∧ e.value = c.value := by
    refine hd.induction fun key ih c e hce hk => ?_
    obtain ⟨hc, he⟩ := List.of_mem_zip hce
    have hfield := (hfollows hce).field
    -- the conditions of the field read only keys that it depends on
    have hread : ∀ t ∈ c.field.conditionList,
        again.values.get? t.fieldKey = form.values.get? t.fieldKey := by
      intro t ht
      have hdepends : d.DependsOn key t.fieldKey :=
        ⟨c.field, (h.leads hc).mem_fields, hk, t, ht, rfl⟩
      refine Control.get?_valuesOf_congr (List.forall₂_iff_zip.mpr ⟨hlength, fun hab => ?_⟩)
      exact ⟨(hfollows hab).key, fun hak => (ih t.fieldKey hdepends _ _ hab hak).2⟩
    have hvisible : e.visible = c.visible := by
      have hshown := hagain.shown e he
      rw [hfield, Field.isShown, allHold_congr hread, ← Field.isShown, ha.shown c hc] at hshown
      exact (Except.ok.inj hshown).symm
    refine ⟨hvisible, ?_⟩
    cases hv : c.visible with
    | false => rw [ha.cleared c hc hv, hagain.cleared e he (hvisible.trans hv)]
    | true =>
      rcases (hfollows hce).value with hstart | hend
      · rw [hstart, h.startingValue_of_visible hc hv]
      · exact hend
  exact alike_of_forall₂ (List.forall₂_iff_zip.mpr
    ⟨hlength, fun hce => ⟨(hfollows hce).key, hsame _ _ _ hce rfl⟩⟩)

/-- Two forms of one definition have the same field under the same key. -/
theorem Fits.field_eq_of_key (h : form.Fits d) (hf : again.Fits d) {c e : Control}
    (hc : c ∈ form.controls) (he : e ∈ again.controls) (hk : e.key = c.key) : e.field = c.field := by
  refine List.inj_on_of_nodup_map d.nodup_keys_leadingFields ?_ ?_ hk
  · rw [← hf.fields_eq]
    exact List.mem_map_of_mem he
  · rw [← h.fields_eq]
    exact List.mem_map_of_mem hc

/-- A field that has an answer in the new form was not hidden by the first pass. -/
theorem Fits.isShown_of_alike (h : form.Fits d) (hf : again.Fits d)
    (ha : form.Agrees) (hb : (build d form.answers).2 = .ok again) (halike : form.Alike again)
    {c : Control} (hc : c ∈ form.controls) (hv : c.value ≠ .null) :
    c.field.isShown (d.startingValues form.answers) = .ok true := by
  obtain ⟨es, hs, hvalues, -⟩ := h.build_starting hb
  obtain ⟨first, hpass, hrest⟩ := Control.settle_first hs
  rw [hvalues] at hpass
  -- the control of the same key in the new form, and what it was after the first pass
  have hvisible : c.visible = true := by
    cases hvisible : c.visible with
    | true => rfl
    | false => exact absurd (ha.cleared c hc hvisible) hv
  have hanswer : (c.key, c.value) ∈ again.answers := by
    rw [halike.2]
    exact List.mem_map_of_mem (List.mem_filter.mpr ⟨hc, hvisible⟩)
  obtain ⟨e, he, heq⟩ := List.mem_map.mp hanswer
  obtain ⟨hkey, hvalue⟩ := Prod.mk.inj heq
  have hmem : e ∈ again.controls := (List.mem_filter.mp he).1
  obtain ⟨e', he', hrefreshed⟩ := exists_of_forall₂ hrest hmem
  obtain ⟨e₀, -, hrefresh⟩ := exists_of_forall₂ (Control.refreshAll_forall₂ hpass) he'
  have hfield : e₀.field = c.field := by
    rw [← h.field_eq_of_key hf hc hmem hkey, hrefreshed.field, Control.refresh_field hrefresh]
  rcases Control.refresh_cases hrefresh with ⟨hno, -⟩ | ⟨-, shown, hshown, rfl⟩
  · rw [← hfield]
    exact Field.isShown_of_not_hasConditions hno _
  · rw [← hfield, hshown]
    cases shown with
    | true => rfl
    | false =>
      -- a control that the first pass hid would have no value now
      have hnull : e.value = .null := by
        rcases hrefreshed.value with hlost | ⟨-, hlost⟩
        · rw [hlost, Control.present_value, if_neg Bool.false_ne_true]
        · exact hlost
      rw [hnull] at hvalue
      exact absurd hvalue.symm hv

/-- **Restoring.** A form that is built from the answers of a settled form shows the same fields and
has the same answers exactly if every field that held a value is shown on the values that the new
form starts with. -/
theorem restored_iff (h : Settled d form) (hd : d.Acyclic) :
    (d.Testable (d.startingValues form.answers) →
      ∃ again, (build d form.answers).2 = .ok again) ∧
    ∀ again, (build d form.answers).2 = .ok again →
      (form.Alike again ↔ ∀ c ∈ form.controls, c.value ≠ .null →
        c.field.isShown (d.startingValues form.answers) = .ok true) := by
  have hfits := h.reachable.fits
  refine ⟨hfits.build_returns h.reachable, fun again hb => ⟨fun halike c hc hv => ?_, ?_⟩⟩
  · exact hfits.isShown_of_alike (fits_of_build hb) h.agrees hb halike hc hv
  · intro hkept
    obtain ⟨es, hs, -, hstart⟩ := hfits.build_starting hb
    refine hfits.alike_of_follows hd h.agrees (Settled.build hb).agrees ?_
    refine Control.follows_settle (hstart.imp fun c e hce => ⟨hce.1, .inl hce.2⟩) hs ?_ ?_
    · rw [← hfits.startingValues_eq]
      exact hkept
    · intro c hc hv
      have hshown := h.agrees.shown c hc
      cases hvisible : c.visible with
      | true => rwa [hvisible] at hshown
      | false => exact absurd (h.agrees.cleared c hc hvisible) hv

/-- A form in which the default of a field that is hidden at first would hide another field. -/
def shadowed : Definition where
  name := "Shadowed"
  key := "shadowed"
  fields := [
    { id := "1", type := .text, label := "Topic", key := "topic" },
    { id := "2", type := .text, label := "Hint", key := "hint", declaredDefault := some (.text "x")
      conditions := some [{ fieldKey := "topic", operator := .isNotEmpty }] },
    { id := "3", type := .text, label := "Answer", key := "answer"
      conditions := some [{ fieldKey := "hint", operator := .isEmpty }] }]

/-- The answer depends on the hint, and the hint on the topic. -/
theorem acyclic_shadowed : shadowed.Acyclic := by
  refine Definition.acyclic_of_rank
    (fun key => if key = "answer" then 2 else if key = "hint" then 1 else 0) ?_
  rintro _ _ ⟨f, hf, rfl, c, hc, rfl⟩
  simp only [shadowed, List.mem_cons, List.not_mem_nil, or_false] at hf
  rcases hf with rfl | rfl | rfl <;> simp [Field.conditionList] at hc
  all_goals
    subst hc
    decide

theorem testable_shadowed (values : Record) : shadowed.Testable values := by
  intro f hf c hc v _
  simp only [shadowed, List.mem_cons, List.not_mem_nil, or_false] at hf
  rcases hf with rfl | rfl | rfl <;> simp [Field.conditionList] at hc
  · subst hc
    exact ⟨!v.isEmpty, rfl⟩
  · subst hc
    exact ⟨v.isEmpty, rfl⟩

/-- A hint that is shown comes back, and hides the answer as before. -/
theorem restored_shadowed :
    ∃ form again, Settled shadowed form ∧ (build shadowed form.answers).2 = .ok again ∧
      form.visibleKeys = ["topic", "hint"] ∧ form.Alike again := by
  have hbuild : (build shadowed [("topic", .text "t")]).2.toOption.any (fun form =>
      decide (form.visibleKeys = ["topic", "hint"]) &&
        form.controls.all fun c => c.value.isNull || decide
          ((c.field.isShown (shadowed.startingValues form.answers)).toOption = some true)) =
        true := by
    cbv
  obtain ⟨form, hb, hp⟩ := exists_of_build hbuild
  obtain ⟨hkeys, hshown⟩ := Bool.and_eq_true_iff.mp hp
  -- every field that holds anything is shown with the starting values
  have hrestored := restored_iff (.build hb) acyclic_shadowed
  obtain ⟨again, hagain⟩ := hrestored.1 (testable_shadowed _)
  refine ⟨form, again, .build hb, hagain, of_decide_eq_true hkeys, ?_⟩
  refine (hrestored.2 again hagain).mpr fun c hc hv => ?_
  have hc' := List.all_eq_true.mp hshown c hc
  cases hnull : c.value.isNull with
  | true => exact absurd (Value.isNull_eq_true.mp hnull) hv
  | false =>
    rw [hnull, Bool.false_or, decide_eq_true_eq] at hc'
    cases hs : c.field.isShown (shadowed.startingValues form.answers) with
    | error e =>
      rw [hs] at hc'
      cases hc'
    | ok b =>
      rw [hs] at hc'
      rw [Option.some.inj hc']

/-- **Not every form comes back**: the hint is hidden, and its default takes the answer away. -/
theorem not_restored_shadowed :
    ¬∀ d : Definition, d.problems = [] → d.Acyclic → ∀ form values, Reachable d form →
      (form.setValues values).result = .ok () →
      ∃ again, (build d (form.setValues values).form.answers).2 = .ok again ∧
        (form.setValues values).form.Alike again := by
  intro h
  have hrun : (build shadowed []).2.toOption.any (fun form =>
      (form.setValues [("answer", .text "v")]).result.isOk &&
        decide ((form.setValues [("answer", .text "v")]).form.answers.map (·.2.isNull) =
          [false, false]) &&
        (build shadowed (form.setValues [("answer", .text "v")]).form.answers).2.toOption.any
          fun again => decide (again.answers.map (·.2.isNull) = [false, true])) = true := by
    cbv
  obtain ⟨form, hb, hp⟩ := exists_of_build hrun
  simp only [Bool.and_eq_true, decide_eq_true_eq] at hp
  obtain ⟨⟨hok, hsaved⟩, hlost⟩ := hp
  -- both answers have a value in the form, and only one of them in the form that is built again
  obtain ⟨again, hagain, -, halike⟩ := h shadowed rfl acyclic_shadowed form
    [("answer", .text "v")] (.build hb) (result_of_isOk hok)
  obtain ⟨again', hagain', hnull⟩ := exists_of_build hlost
  rw [hagain] at hagain'
  obtain rfl := Except.ok.inj hagain'
  rw [halike, hsaved] at hnull
  exact absurd hnull (by decide)

end Form

end DynamicForm
