import DynamicForm.Proofs.Definition.Rearrangement
import DynamicForm.Proofs.Form.Construction
import DynamicForm.Proofs.Form.Recollection
import DynamicForm.Proofs.Form.Relabelling
import Mathlib.Data.List.Find

/-!
# Forms of rearranged definitions

A pass over the controls shows and hides them one after the other, but it tests their conditions on
the values that it starts with. So it does not matter which control comes first. Nor does it matter
in which order a change lists the values that it sets. Two forms whose definitions have the same
fields, with distinct keys, show and hold the same as long as they are given the same.

- `Control.settle_unnumbered`: the loop does not read the numbers of the fields.
- `Control.settle_perm`: it makes the same of the controls in any order.
- `Form.run_rearranged`: a run of changes keeps two forms rearranged.
- `Form.order_immaterial`: so every key has the same value and is shown alike in both.
-/

namespace DynamicForm

/-! ## Records

A change gives its values in a record. The order matters only to a key that stands there twice. -/

namespace Record

/-- The value of a key is that of the first entry for it. -/
theorem get?_eq_find? (r : Record) (key : String) :
    r.get? key = (r.find? fun e => e.1 == key).map Prod.snd := by
  induction r with
  | nil => rfl
  | cons e rest ih =>
    rw [get?_cons, List.find?_cons, ih]
    by_cases hk : key = e.1
    · rw [if_pos hk, beq_iff_eq.mpr hk.symm]
      rfl
    · rw [if_neg hk, beq_eq_false_iff_ne.mpr (Ne.symm hk)]

/-- A key of a record is given one value, wherever it stands. -/
theorem get?_perm {r s : Record} (hn : r.keys.Nodup) (h : s.Perm r) (key : String) :
    s.get? key = r.get? key := by
  rw [get?_eq_find?, get?_eq_find?, List.find?_eq_find?_of_perm h.symm]
  rintro a ⟨ha, hka⟩ b ⟨hb, hkb⟩
  exact List.inj_on_of_nodup_map hn ha hb ((beq_iff_eq.mp hka).trans (beq_iff_eq.mp hkb).symm)

/-- The other record gives the same keys the same values, in another order. -/
structure Reordered (r s : Record) : Prop where
  nodup : r.keys.Nodup
  perm : s.Perm r

end Record

/-! ## Numbers -/

namespace Control

variable {cs es done next : List Control}

/-- Neither keys nor conditions depend on the numbers. -/
theorem relabels_unnumbered : Field.Relabels Field.unnumbered := ⟨fun _ => rfl, fun _ => rfl⟩

/-- The control of the field without its number. -/
def unnumbered (c : Control) : Control := { c with field := c.field.unnumbered }

/-- **Numbers.** The loop does not read the numbers of the fields. -/
theorem settle_unnumbered (cs : List Control) :
    settle (cs.map unnumbered) = ((settle cs).1.map unnumbered, (settle cs).2) :=
  settle_relabel relabels_unnumbered cs

/-! ## Order

A permutation cannot be carried through a pass control by control, since the pass goes through them
in turn. But a pass that returns is a map, because the values that conditions are tested on do not
change on the way; and a map goes through a permutation. -/

/-- The control after a refresh, or as it is when a fault is met. -/
def refreshed (values : Record) (c : Control) : Control := (c.refresh values).toOption.getD c

/-- **A pass** that returns has refreshed every control by itself. -/
theorem refreshAll_eq_map {values : Record} :
    refreshAll values cs = (next, none) ↔
      (∀ c ∈ cs, c.refresh values = .ok (c.refreshed values)) ∧ next = cs.map (refreshed values) := by
  induction cs generalizing next with
  | nil => simp [refreshAll, eq_comm]
  | cons c rest ih =>
    constructor
    · intro h
      obtain ⟨d, ds, hd, hrest, rfl⟩ := refreshAll_cons_ok h
      obtain ⟨hall, rfl⟩ := ih.mp hrest
      have hc : c.refreshed values = d := by
        rw [refreshed, hd]
        rfl
      rw [List.forall_mem_cons, List.map_cons, hc]
      exact ⟨⟨hd, hall⟩, rfl⟩
    · rintro ⟨hall, rfl⟩
      obtain ⟨hc, hrest⟩ := List.forall_mem_cons.mp hall
      rw [refreshAll, hc, ih.mpr ⟨hrest, rfl⟩]
      rfl

/-- Whether a map has cleared a value is a question about single controls. -/
theorem hasCleared_map (g : Control → Control) (cs : List Control) :
    hasCleared cs (cs.map g) = cs.any fun c => c.isLive && !(g c).isLive := by
  induction cs with
  | nil => rfl
  | cons c rest ih => rw [List.map_cons, hasCleared, ih, List.any_cons]

/-- Conditions look values up and do not see their order. -/
theorem refresh_congr {values others : Record} (h : ∀ key, others.get? key = values.get? key)
    (c : Control) : c.refresh others = c.refresh values := by
  rw [refresh, refresh, Field.isShown, Field.isShown, allHold_congr fun t _ => h t.fieldKey]

/-- **One pass.** Whichever control is refreshed first, the same becomes of each. -/
theorem refreshAll_perm {values others : Record} (hv : ∀ key, others.get? key = values.get? key)
    (h : es.Perm cs) (hpass : refreshAll values cs = (next, none)) :
    ∃ next', refreshAll others es = (next', none) ∧ next'.Perm next ∧
      hasCleared es next' = hasCleared cs next := by
  obtain ⟨hall, rfl⟩ := refreshAll_eq_map.mp hpass
  have hsame : refreshed others = refreshed values := by
    funext c
    rw [refreshed, refreshed, refresh_congr hv]
  refine ⟨es.map (refreshed values), refreshAll_eq_map.mpr ⟨fun c hc => ?_, by rw [hsame]⟩,
    h.map _, ?_⟩
  · rw [refresh_congr hv, hsame]
    exact hall c (h.mem_iff.mp hc)
  · rw [hasCleared_map, hasCleared_map, h.any_eq]

/-- With distinct keys the values are the same under every key. -/
theorem get?_valuesOf_perm (hn : (cs.map key).Nodup) (h : es.Perm cs) (key : String) :
    Record.get? (valuesOf es) key = Record.get? (valuesOf cs) key := by
  refine Record.get?_perm ?_ (h.map _) key
  rw [Record.keys, List.map_map]
  exact hn

theorem keys_of_refreshAll {values : Record} (hpass : refreshAll values cs = (next, none)) :
    next.map key = cs.map key := by
  obtain ⟨hall, rfl⟩ := refreshAll_eq_map.mp hpass
  rw [List.map_map]
  exact List.map_congr_left fun c hc => congrArg Field.key (refresh_field (hall c hc))

/-- **Order.** The loop makes the same of controls with distinct keys in any order. The induction is
on the passes; each of them keeps the keys. -/
theorem settle_perm (hn : (cs.map key).Nodup) (h : es.Perm cs) (hs : settle cs = (done, none)) :
    ∃ done', settle es = (done', none) ∧ done'.Perm done := by
  induction cs using settle.induct generalizing es with
  | case1 cs next e hpass =>
    rw [settle_of_fault hpass] at hs
    cases (Prod.mk.inj hs).2
  | case2 cs next hpass hc ih =>
    rw [settle_of_cleared hpass hc] at hs
    obtain ⟨next', hpass', hperm, hcleared⟩ := refreshAll_perm (get?_valuesOf_perm hn h) h hpass
    rw [settle_of_cleared hpass' (hcleared.trans hc)]
    exact ih (by rwa [keys_of_refreshAll hpass]) hperm hs
  | case3 cs next hpass hc =>
    rw [settle_of_not_cleared hpass hc] at hs
    obtain ⟨rfl, -⟩ := Prod.mk.inj hs
    obtain ⟨next', hpass', hperm, hcleared⟩ := refreshAll_perm (get?_valuesOf_perm hn h) h hpass
    exact ⟨next', settle_of_not_cleared hpass' (by rwa [hcleared]), hperm⟩

/-! ## Rearranged controls

Two things may differ at once, the order and the numbers of the fields. Taking the numbers away
leaves the order, and for that there is a lemma already. -/

/-- The other controls are in the same states, but for their order and the numbers of their
fields. -/
def Rearranged (cs cs' : List Control) : Prop :=
  (cs'.map unnumbered).Perm (cs.map unnumbered)

theorem keys_map {g : Control → Control} (hg : ∀ c, (g c).key = c.key) (cs : List Control) :
    (cs.map g).map key = cs.map key := by
  rw [List.map_map]
  exact List.map_congr_left fun c _ => hg c

theorem keys_unnumbered (cs : List Control) : (cs.map unnumbered).map key = cs.map key :=
  keys_map (g := unnumbered) (fun _ => rfl) cs

/-- What is done to every control by itself keeps them rearranged. -/
theorem Rearranged.map {cs cs' : List Control} (h : Rearranged cs cs') {g : Control → Control}
    (hg : ∀ c, (g c).unnumbered = g c.unnumbered) : Rearranged (cs.map g) (cs'.map g) := by
  have hcomm : ∀ cs : List Control, (cs.map g).map unnumbered = (cs.map unnumbered).map g := by
    intro cs
    simp only [List.map_map, Function.comp_def, hg]
  rw [Rearranged, hcomm, hcomm]
  exact List.Perm.map g h

theorem unnumbered_patch (values : Record) (c : Control) :
    (c.patch values).unnumbered = c.unnumbered.patch values :=
  relabel_patch relabels_unnumbered values c

theorem unnumbered_assign (values : Record) (c : Control) :
    (c.assign values).unnumbered = c.unnumbered.assign values :=
  relabel_assign relabels_unnumbered values c

/-- **Settling** keeps controls rearranged. -/
theorem Rearranged.settle {cs cs' : List Control} (h : Rearranged cs cs')
    (hn : (cs.map key).Nodup) (hs : settle cs = (done, none)) :
    ∃ done', settle cs' = (done', none) ∧ Rearranged done done' := by
  have hplain : Control.settle (cs.map unnumbered) = (done.map unnumbered, none) := by
    rw [settle_unnumbered, hs]
  obtain ⟨es, hes, hperm⟩ := settle_perm (by rwa [keys_unnumbered]) h hplain
  -- what is left there is what is left of the numbered controls, without the numbers
  rw [settle_unnumbered] at hes
  rcases hs' : Control.settle cs' with ⟨done', fault⟩
  rw [hs'] at hes
  obtain ⟨rfl, rfl⟩ := Prod.mk.inj hes
  exact ⟨done', rfl, hperm⟩

end Control

/-! ## Forms

What callers can see of a form goes by key. -/

namespace Form

variable {d d' : Definition} {form form' : Form}

/-- A key finds the same control, but for the number of its field. -/
theorem control?_rearranged (hn : form.keys.Nodup)
    (h : Control.Rearranged form.controls form'.controls) (key : String) :
    (form'.control? key).map Control.unnumbered = (form.control? key).map Control.unnumbered := by
  have hplain : ∀ cs : List Control, (cs.find? fun c => c.key == key).map Control.unnumbered =
      (cs.map Control.unnumbered).find? fun c => c.key == key := by
    intro cs
    rw [List.find?_map]
    rfl
  rw [control?, control?, hplain, hplain]
  refine (List.find?_eq_find?_of_perm h.symm ?_).symm
  rintro a ⟨ha, hka⟩ b ⟨hb, hkb⟩
  refine List.inj_on_of_nodup_map (f := Control.key) ?_ ha hb
    ((beq_iff_eq.mp hka).trans (beq_iff_eq.mp hkb).symm)
  rw [Control.keys_unnumbered]
  exact hn

/-- What is told of a key does not depend on the order. -/
theorem looks_rearranged (hn : form.keys.Nodup)
    (h : Control.Rearranged form.controls form'.controls) (key : String) :
    form'.getValue key = form.getValue key ∧ form'.isVisible key = form.isVisible key := by
  have hfound := control?_rearranged hn h key
  rw [getValue, getValue, isVisible, isVisible, control, control]
  cases hc : form.control? key with
  | none =>
    rw [hc, Option.map_none, Option.map_eq_none_iff] at hfound
    rw [hfound]
    exact ⟨rfl, rfl⟩
  | some c =>
    rw [hc, Option.map_some, Option.map_eq_some_iff] at hfound
    obtain ⟨c', hc', hsame⟩ := hfound
    have hvalue : c'.unnumbered.value = c.unnumbered.value := congrArg Control.value hsame
    have hvisible : c'.unnumbered.visible = c.unnumbered.visible := congrArg Control.visible hsame
    rw [hc']
    exact ⟨congrArg Except.ok hvalue, congrArg Except.ok hvisible⟩

/-! ## Construction

The controls of two rearranged definitions are made in different order. If a check cannot be
compiled, neither can that of the field in the other definition, so that both are built or neither.
-/

/-- The control that a form starts with, for a field whose checks can be compiled. -/
def starting (f : Field) : Control := Control.fresh f (f.checks.toOption.getD [])

/-- Every control of a new form is the one that its field starts with. -/
theorem controlsFor_eq_map {cs : List Control}
    (h : (controlsFor d.key [] d.sortedFields).2 = .ok cs) : cs = d.leadingFields.map starting := by
  have hstarting := (controlsFor_leadingFields h).imp (S := fun f c => starting f = c) (by
    rintro f c ⟨checks, hchecks, rfl⟩
    rw [starting, hchecks]
    rfl)
  exact (List.forall₂_eq_eq_eq ▸ List.forall₂_map_left_iff.mpr hstarting).symm

/-- The controls of rearranged definitions. -/
theorem controlsFor_rearranged (hd : d.fieldKeys.Nodup) (h : d.Rearranged d') {cs : List Control}
    (hcs : (controlsFor d.key [] d.sortedFields).2 = .ok cs) :
    ∃ cs', (controlsFor d'.key [] d'.sortedFields).2 = .ok cs' ∧ Control.Rearranged cs cs' := by
  have hleading := Definition.leadingFields_perm hd
  cases hcs' : (controlsFor d'.key [] d'.sortedFields).2 with
  | error e =>
    -- the field that cannot be compiled has a counterpart, for which there is a control
    obtain ⟨f', hf', hfault⟩ := controlsFor_fault hcs'
    have hmem : f'.unnumbered ∈ d.fields.map Field.unnumbered :=
      h.mem_iff.mp (List.mem_map_of_mem (List.mem_mergeSort.mp hf'))
    obtain ⟨f, hf, hsame⟩ := List.mem_map.mp hmem
    obtain ⟨c, -, checks, hchecks, -⟩ := exists_of_forall₂ (controlsFor_leadingFields hcs).flip
      (hleading.mem_iff.mpr hf)
    have hequal : f.unnumbered.checks = f'.unnumbered.checks := congrArg Field.checks hsame
    cases hchecks.symm.trans (hequal.trans hfault)
  | ok cs' =>
    have hleading' := Definition.leadingFields_perm (h.fieldKeys.nodup_iff.mpr hd)
    have hplain : ∀ fs : List Field, (fs.map starting).map Control.unnumbered =
        (fs.map Field.unnumbered).map starting := by
      intro fs
      rw [List.map_map, List.map_map]
      rfl
    refine ⟨cs', rfl, ?_⟩
    rw [controlsFor_eq_map hcs, controlsFor_eq_map hcs', Control.Rearranged, hplain, hplain]
    exact (((hleading'.map _).trans h).trans (hleading.map _).symm).map _

/-- **Construction.** A rearranged definition gives a rearranged form. -/
theorem build_rearranged (hd : d.fieldKeys.Nodup) (h : d.Rearranged d') {initial : Record}
    (hb : (build d initial).2 = .ok form) :
    ∃ form', (build d' initial).2 = .ok form' ∧
      Control.Rearranged form.controls form'.controls := by
  obtain ⟨cs, settled, hcs, hs, rfl⟩ := build_ok hb
  obtain ⟨cs', hcs', hrearranged⟩ := controlsFor_rearranged hd h hcs
  have hkeys : ((cs.map (Control.patch initial)).map Control.key).Nodup := by
    rw [Control.keys_map fun c => congrArg Field.key (patch_field initial c),
      controlsFor_eq_map hcs, List.map_map]
    exact d.nodup_keys_leadingFields
  obtain ⟨settled', hs', hsettled⟩ :=
    (hrearranged.map (Control.unnumbered_patch initial)).settle hkeys hs
  refine ⟨{ definition := d', initialValues := initial, controls := settled' }, ?_, hsettled⟩
  simp only [build, hcs', hs']

/-! ## Changes

A change is refused for an unknown key, or it assigns and settles. The two forms know the same keys.
-/

/-- **One change** that returns does so also in a rearranged form, where it gives the values in any
order. -/
theorem setValues_rearranged (hn : form.keys.Nodup)
    (h : Control.Rearranged form.controls form'.controls) {values values' : Record}
    (hv : values.Reordered values') (hok : (form.setValues values).result = .ok ()) :
    (form'.setValues values').result = .ok () ∧
      Control.Rearranged (form.setValues values).form.controls
        (form'.setValues values').form.controls := by
  -- the second form has the same keys, so it does not refuse the change either
  have hknown : values'.keys.find? (fun k => (form'.control? k).isNone) = none := by
    refine List.find?_eq_none.mpr fun k hk => ?_
    obtain ⟨c, hc⟩ := control?_of_setValues hok ((hv.perm.map Prod.fst).mem_iff.mp hk)
    have hfound := control?_rearranged hn h k
    rw [hc] at hfound
    cases hc' : form'.control? k with
    | none =>
      rw [hc'] at hfound
      cases hfound
    | some c' => exact Bool.false_ne_true
  have hassigned : Control.Rearranged (form.assigned values) (form'.assigned values') := by
    have hsame : Control.assign values' = Control.assign values := by
      funext c
      rw [Control.assign, Control.assign, Record.get?_perm hv.nodup hv.perm]
    rw [assigned, assigned, hsame]
    exact h.map (Control.unnumbered_assign values)
  have hkeys : ((form.assigned values).map Control.key).Nodup := by
    rw [assigned, Control.keys_map fun c => congrArg Field.key (assign_field values c)]
    exact hn
  obtain ⟨done, hdone, hrearranged⟩ := hassigned.settle hkeys (settle_of_setValues hok)
  have hset : form'.setValues values' = form'.settle (form'.assigned values') values'.keys := by
    rw [setValues, hknown]
    rfl
  rw [hset, settle, hdone]
  exact ⟨rfl, hrearranged⟩

/-- **A run of changes.** -/
theorem run_rearranged (hf : form.Fits d) (h : Control.Rearranged form.controls form'.controls)
    {changes changes' : List Record} (hc : List.Forall₂ Record.Reordered changes changes')
    (hr : form.Returns (changes.map .setValues)) :
    form'.Returns (changes'.map .setValues) ∧
      Control.Rearranged (form.run (changes.map .setValues)).controls
        (form'.run (changes'.map .setValues)).controls := by
  -- the two runs go on together; each change keeps the forms rearranged
  induction hc generalizing form form' with
  | nil => exact ⟨trivial, h⟩
  | cons hv _ ih =>
    obtain ⟨hok, hrest⟩ := hr
    obtain ⟨hok', h'⟩ := setValues_rearranged hf.nodup_keys h hv hok
    obtain ⟨hreturns, hrun⟩ := ih (hf.setValues _) h' hrest
    exact ⟨⟨hok', hreturns⟩, hrun⟩

/-- **Order.** Let a form be built from a definition with distinct keys, and values be changed any
number of times, so that every change returns. Then a form can also be built from a rearranged
definition with the same initial values, the changes return there too when each gives its values in
another order, and after each of them every key has the same value and is shown in both forms or in
neither. -/
theorem order_immaterial (hd : d.fieldKeys.Nodup) (h : d.Rearranged d') {initial : Record}
    {changes changes' : List Record} (hc : List.Forall₂ Record.Reordered changes changes')
    (hb : (build d initial).2 = .ok form) (hr : form.Returns (changes.map .setValues)) :
    ∃ form', (build d' initial).2 = .ok form' ∧ form'.Returns (changes'.map .setValues) ∧
      ∀ n key,
        (form'.run ((changes'.take n).map .setValues)).getValue key =
          (form.run ((changes.take n).map .setValues)).getValue key ∧
        (form'.run ((changes'.take n).map .setValues)).isVisible key =
          (form.run ((changes.take n).map .setValues)).isVisible key := by
  obtain ⟨form', hb', hrearranged⟩ := build_rearranged hd h hb
  have hfits := fits_of_build hb
  refine ⟨form', hb', (run_rearranged hfits hrearranged hc hr).1, fun n key => ?_⟩
  have hfirst : form.Returns ((changes.take n).map .setValues) := by
    rw [← List.take_append_drop n changes, List.map_append] at hr
    exact (returns_append.mp hr).1
  have hreachable : Reachable d (form.run ((changes.take n).map .setValues)) :=
    (Reachable.build hb).run _
  exact looks_rearranged hreachable.fits.nodup_keys
    (run_rearranged hfits hrearranged (List.forall₂_take n hc) hfirst).2 key

/-- The fields of `branched`, turned round and numbered from the other end. -/
def turned : Definition :=
  { branched with fields := Editor.renumber branched.fields.reverse }

theorem rearranged_turned : branched.Rearranged turned := by
  rw [Definition.Rearranged, turned, Definition.unnumbered_renumber]
  exact branched.fields.reverse_perm.map _

/-- Two fields, one of which depends on the other, are shown after one change and hidden after the
next, whichever field and whichever value comes first. -/
theorem order_immaterial_branched :
    let first : Record := [("note", .text "n"), ("kind", .text "x"), ("detail", .text "d")]
    let second : Record := [("other", .text "o"), ("kind", .text "y")]
    ∃ form form', (build branched []).2 = .ok form ∧ (build turned []).2 = .ok form' ∧
      form'.Returns [.setValues first.reverse, .setValues second.reverse] ∧
      (form'.run [.setValues first.reverse]).isVisible "note" = .ok true ∧
      (form'.run [.setValues first.reverse, .setValues second.reverse]).isVisible "note" =
        .ok false ∧
      (form'.run [.setValues first.reverse, .setValues second.reverse]).isVisible "aside" =
        .ok true := by
  intro first second
  have hrun : (build branched []).2.toOption.any (fun form =>
      (form.setValues first).result.isOk &&
      ((form.run [.setValues first]).setValues second).result.isOk &&
      decide (((form.run [.setValues first]).isVisible "note").toOption = some true) &&
      decide (((form.run [.setValues first, .setValues second]).isVisible "note").toOption =
        some false) &&
      decide (((form.run [.setValues first, .setValues second]).isVisible "aside").toOption =
        some true)) = true := by
    cbv
  obtain ⟨form, hb, hp⟩ := exists_of_build hrun
  simp only [Bool.and_eq_true, decide_eq_true_eq] at hp
  obtain ⟨⟨⟨⟨hfirst, hsecond⟩, hshown⟩, hhidden⟩, haside⟩ := hp
  have hreordered : List.Forall₂ Record.Reordered [first, second] [first.reverse, second.reverse] :=
    .cons ⟨by decide, first.reverse_perm⟩ (.cons ⟨by decide, second.reverse_perm⟩ .nil)
  have hreturns : form.Returns ([first, second].map .setValues) :=
    ⟨result_of_isOk hfirst, result_of_isOk hsecond, trivial⟩
  obtain ⟨form', hb', hreturns', hsame⟩ :=
    order_immaterial (by decide) rearranged_turned hreordered hb hreturns
  exact ⟨form, form', hb, hb', hreturns', (hsame 1 "note").2.trans (eq_ok_of_toOption hshown),
    (hsame 2 "note").2.trans (eq_ok_of_toOption hhidden),
    (hsame 2 "aside").2.trans (eq_ok_of_toOption haside)⟩

end Form

end DynamicForm
