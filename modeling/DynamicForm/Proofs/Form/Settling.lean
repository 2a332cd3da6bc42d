import DynamicForm.Form.Control
import Mathlib.Data.List.Forall2

/-!
# Settling

Passes over the controls follow each other until one clears no value. Two things hold of that loop,
whatever the conditions refer to:

- `Control.settle_refreshed`: a control keeps its field, its compiled checks and its mark, and loses
  its value only if it has conditions; this holds also when a fault ends the loop.
- `Control.settle_stable`: when no fault ends it, what is shown agrees with the values it leaves.

The values that a pass reads are those it leaves only in the last pass, so the second fact is one
about the last pass, carried over the others by induction.
-/

namespace DynamicForm

/-! ## Lists side by side

Controls before and after a pass stand side by side, since a pass neither adds nor moves any. -/

theorem forall₂_trans {α β γ : Type} {r : α → β → Prop} {s : β → γ → Prop} {t : α → γ → Prop}
    {as : List α} {bs : List β} {cs : List γ} (h₁ : List.Forall₂ r as bs)
    (h₂ : List.Forall₂ s bs cs) (hr : ∀ a b c, r a b → s b c → t a c) :
    List.Forall₂ t as cs := by
  induction h₁ generalizing cs with
  | nil =>
    cases h₂
    exact .nil
  | cons hab _ ih =>
    cases h₂ with
    | cons hbc hrest => exact .cons (hr _ _ _ hab hbc) (ih hrest)

/-- Every member of the second list has a counterpart. -/
theorem exists_of_forall₂ {α β : Type} {r : α → β → Prop} {as : List α} {bs : List β}
    (h : List.Forall₂ r as bs) {b : β} (hb : b ∈ bs) : ∃ a ∈ as, r a b := by
  induction h with
  | nil => cases hb
  | cons hr _ ih =>
    rcases List.mem_cons.mp hb with rfl | hb
    · exact ⟨_, List.mem_cons_self, hr⟩
    · obtain ⟨a, ha, hab⟩ := ih hb
      exact ⟨a, List.mem_cons_of_mem _ ha, hab⟩

theorem Value.isNull_eq_true {v : Value} : v.isNull = true ↔ v = .null := by
  cases v <;> simp [Value.isNull]

namespace Control

theorem isLive_eq_false {c : Control} : c.isLive = false ↔ c.value = .null := by
  rw [isLive, Bool.not_eq_false', Value.isNull_eq_true]

/-- The checks in force fit what is shown, and a control without conditions is shown. -/
structure Coherent (c : Control) : Prop where
  checks_eq : c.checks = if c.visible then c.compiled else []
  visible : c.field.hasConditions = false → c.visible = true

/-- What any number of refreshes can make of a control. -/
structure Refreshed (c d : Control) : Prop where
  field : d.field = c.field
  compiled : d.compiled = c.compiled
  touched : d.touched = c.touched
  value : d.value = c.value ∨ c.field.hasConditions = true ∧ d.value = .null
  coherent : c.Coherent → d.Coherent

/-! ## One control -/

theorem Refreshed.refl (c : Control) : c.Refreshed c := ⟨rfl, rfl, rfl, .inl rfl, id⟩

theorem Refreshed.trans {c d e : Control} (h₁ : c.Refreshed d) (h₂ : d.Refreshed e) :
    c.Refreshed e where
  field := h₂.field.trans h₁.field
  compiled := h₂.compiled.trans h₁.compiled
  touched := h₂.touched.trans h₁.touched
  value := by
    rcases h₂.value with hv | ⟨hf, hv⟩
    · rw [hv]
      exact h₁.value
    · exact .inr ⟨h₁.field ▸ hf, hv⟩
  coherent hc := h₂.coherent (h₁.coherent hc)

theorem Refreshed.key {c d : Control} (h : c.Refreshed d) : d.key = c.key := by
  rw [Control.key, Control.key, h.field]

/-- The compiled checks are kept, to be put in force again. -/
theorem present_compiled (shown : Bool) (c : Control) :
    (c.present shown).compiled = c.compiled := by
  unfold present; split <;> try split
  all_goals rfl

theorem present_touched (shown : Bool) (c : Control) : (c.present shown).touched = c.touched := by
  unfold present; split <;> try split
  all_goals rfl

/-- Showing and hiding keep the checks in force in step with what is shown. -/
theorem Coherent.present {c : Control} (hc : c.Coherent) (shown : Bool) :
    (c.present shown).checks = if shown then c.compiled else [] := by
  have hchecks := hc.checks_eq
  cases shown with
  | false => cases hv : c.visible <;> simp_all [Control.present]
  | true => cases hv : c.visible <;> simp_all [Control.present]

/-- **One refresh.** -/
theorem Refreshed.of_refresh {values : Record} {c d : Control} (h : c.refresh values = .ok d) :
    c.Refreshed d := by
  rcases refresh_cases h with ⟨-, rfl⟩ | ⟨hf, shown, -, rfl⟩
  · exact .refl _
  · refine ⟨present_field .., present_compiled .., present_touched .., ?_, fun hc => ⟨?_, ?_⟩⟩
    · rw [present_value]
      cases shown with
      | false => exact .inr ⟨hf, rfl⟩
      | true => exact .inl rfl
    · rw [hc.present, present_visible, present_compiled]
    · rw [present_field, hf]
      intro hno
      cases hno

/-! ## One pass

A pass reads the values that there were when it began. If it clears one, the answers of the
conditions that came before may be out of date, and another pass is needed. -/

/-- What a pass makes of the controls, also of those behind a fault. -/
theorem refreshAll_refreshed (values : Record) (cs : List Control) :
    List.Forall₂ Refreshed cs (refreshAll values cs).1 := by
  induction cs with
  | nil => exact .nil
  | cons c rest ih =>
    unfold refreshAll
    cases h : c.refresh values with
    | error e => exact .cons (.refl c) (List.forall₂_same.mpr fun d _ => .refl d)
    | ok d => exact .cons (.of_refresh h) ih

/-- What a pass makes of the controls when no fault ends it. -/
theorem refreshAll_forall₂ {values : Record} {cs next : List Control}
    (h : refreshAll values cs = (next, none)) :
    List.Forall₂ (fun c d => c.refresh values = .ok d) cs next := by
  induction cs generalizing next with
  | nil =>
    obtain ⟨rfl, -⟩ := Prod.mk.inj h
    exact .nil
  | cons c rest ih =>
    obtain ⟨d, ds, hd, hr, rfl⟩ := refreshAll_cons_ok h
    exact .cons hd (ih hr)

/-- A pass that clears no value leaves the values that it has read. -/
theorem valuesOf_eq_of_not_hasCleared {values : Record} {cs next : List Control}
    (h : refreshAll values cs = (next, none)) (hc : hasCleared cs next = false) :
    valuesOf next = valuesOf cs := by
  induction cs generalizing next with
  | nil =>
    obtain ⟨rfl, -⟩ := Prod.mk.inj h
    rfl
  | cons c rest ih =>
    obtain ⟨d, ds, hd, hr, rfl⟩ := refreshAll_cons_ok h
    simp only [hasCleared, Bool.or_eq_false_iff] at hc
    have hrefreshed := Refreshed.of_refresh hd
    -- a value that is null after the pass was null before, or the pass has cleared it
    have hvalue : d.value = c.value := by
      rcases hrefreshed.value with hv | ⟨-, hv⟩
      · exact hv
      · have hdead := isLive_eq_false.mpr hv
        rw [hdead] at hc
        rw [hv, isLive_eq_false.mp (by simpa using hc.1)]
    simp only [valuesOf, List.map_cons, hrefreshed.key, hvalue] at ih ⊢
    rw [ih hr hc.2]

/-! ## The loop

Every pass but the last clears a value that was there, so there are only as many as there are
values. The last one clears none, and what it has read is what it leaves. -/

/-- **Whatever happens.** The loop makes of every control what refreshes can make of it. -/
theorem settle_refreshed (cs : List Control) : List.Forall₂ Refreshed cs (settle cs).1 := by
  induction cs using settle.induct with
  | case1 cs next e h =>
    have hpass := refreshAll_refreshed (valuesOf cs) cs
    rw [settle_of_fault h]
    rwa [h] at hpass
  | case2 cs next h hc ih =>
    have hpass := refreshAll_refreshed (valuesOf cs) cs
    rw [settle_of_cleared h hc]
    rw [h] at hpass
    exact forall₂_trans hpass ih fun _ _ _ => Refreshed.trans
  | case3 cs next h hc =>
    have hpass := refreshAll_refreshed (valuesOf cs) cs
    rw [settle_of_not_cleared h hc]
    rwa [h] at hpass

/-- The last pass of a loop that no fault ends: it reads the values that it leaves. -/
theorem settle_last {cs done : List Control} (h : settle cs = (done, none)) :
    ∃ before, refreshAll (valuesOf done) before = (done, none) := by
  induction cs using settle.induct with
  | case1 cs next e hpass =>
    rw [settle_of_fault hpass] at h
    cases (Prod.mk.inj h).2
  | case2 cs next hpass hc ih =>
    rw [settle_of_cleared hpass hc] at h
    exact ih h
  | case3 cs next hpass hc =>
    rw [settle_of_not_cleared hpass hc] at h
    obtain ⟨rfl, -⟩ := Prod.mk.inj h
    refine ⟨cs, ?_⟩
    rw [valuesOf_eq_of_not_hasCleared hpass (by simpa using hc)]
    exact hpass

/-- **When it returns.** A control with conditions is shown exactly if they hold on the values that
are left, and without a value otherwise. -/
theorem settle_stable {cs done : List Control} (h : settle cs = (done, none)) :
    ∀ d ∈ done, d.field.hasConditions = true →
      d.field.isShown (valuesOf done) = .ok d.visible ∧ (d.visible = false → d.value = .null) := by
  obtain ⟨before, hlast⟩ := settle_last h
  intro d hd hf
  obtain ⟨c, -, hc⟩ := exists_of_forall₂ (refreshAll_forall₂ hlast) hd
  rcases refresh_cases hc with ⟨hno, rfl⟩ | ⟨-, shown, hs, rfl⟩
  · rw [hf] at hno
    cases hno
  · rw [present_field, present_visible, hs]
    refine ⟨rfl, ?_⟩
    rintro rfl
    rfl

/-- A pass over controls whose conditions can be tested meets no fault. -/
theorem refreshAll_returns {values : Record} {cs : List Control}
    (h : ∀ c ∈ cs, ∃ b, c.field.isShown values = .ok b) :
    ∃ next, refreshAll values cs = (next, none) := by
  induction cs with
  | nil => exact ⟨[], rfl⟩
  | cons c rest ih =>
    obtain ⟨hc, hrest⟩ := List.forall_mem_cons.mp h
    obtain ⟨b, hb⟩ := hc
    obtain ⟨next, hnext⟩ := ih hrest
    obtain ⟨d, hd⟩ : ∃ d, c.refresh values = .ok d := by
      unfold refresh
      rw [hb]
      cases c.field.hasConditions
      · exact ⟨c, rfl⟩
      · exact ⟨c.present b, rfl⟩
    exact ⟨d :: next, by rw [refreshAll, hd, hnext]⟩

/-- **No fault.** The loop returns when conditions can be tested on whatever refreshes make of the
controls. -/
theorem settle_returns {cs : List Control}
    (h : ∀ es, List.Forall₂ Refreshed cs es →
      ∀ e ∈ es, ∃ b, e.field.isShown (valuesOf es) = .ok b) :
    ∃ done, settle cs = (done, none) := by
  induction cs using settle.induct with
  | case1 cs first e hpass =>
    obtain ⟨next, hnext⟩ := refreshAll_returns (h cs (List.forall₂_same.mpr fun c _ => .refl c))
    rw [hpass] at hnext
    cases (Prod.mk.inj hnext).2
  | case2 cs first hpass hc ih =>
    have hfirst := refreshAll_refreshed (valuesOf cs) cs
    rw [hpass] at hfirst
    rw [settle_of_cleared hpass hc]
    exact ih fun es hes => h es (forall₂_trans hfirst hes fun _ _ _ => Refreshed.trans)
  | case3 cs first hpass hc => exact ⟨first, settle_of_not_cleared hpass hc⟩

end Control

end DynamicForm
