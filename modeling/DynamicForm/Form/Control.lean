import DynamicForm.Check.OfField
import DynamicForm.Visibility

/-!
# Controls

A control is the live state of one field. While it is hidden it holds no value and no checks.

- `Control.present` shows or hides a control.
- `settle` shows and hides controls until their values agree with what is shown.
-/

namespace DynamicForm

/-- The live state of one field. -/
structure Control where
  field : Field
  /-- The checks of the field. -/
  compiled : List Check
  value : Value
  /-- The checks in force. -/
  checks : List Check
  visible : Bool := true
  /-- Whether the value has been set, or a submission tried. -/
  touched : Bool := false

namespace Control

def key (c : Control) : String := c.field.key

/-- A control with the value that the field starts with. -/
def fresh (f : Field) (checks : List Check) : Control :=
  ⟨f, checks, f.initialValue, checks, true, false⟩

/-- The control as it was at first. -/
def restart (c : Control) : Control := fresh c.field c.compiled

/-- Takes the value under the control's key, if there is one. -/
def patch (values : Record) (c : Control) : Control :=
  match values.get? c.key with
  | some v => { c with value := v }
  | none => c

/-- Takes the value under the control's key as one that has been set. -/
def assign (values : Record) (c : Control) : Control :=
  match values.get? c.key with
  | some v => { c with value := v, touched := true }
  | none => c

/-- Marks a control as one that has been tried. -/
def touch (c : Control) : Control := { c with touched := true }

/-- Shows or hides a control. A control that becomes visible gets its checks back, a hidden one
loses its checks and its value. -/
def present (shown : Bool) (c : Control) : Control :=
  if shown then
    if c.visible then c else { c with visible := true, checks := c.compiled }
  else { c with visible := false, checks := if c.visible then [] else c.checks, value := .null }

/-- Whether the control holds a value. -/
def isLive (c : Control) : Bool := !c.value.isNull

/-- Shows or hides a control as its conditions say. Fields without conditions are left alone. -/
def refresh (values : Record) (c : Control) : Except Fault Control :=
  if c.field.hasConditions then (c.field.isShown values).map c.present
  else .ok c

/-- The rules that the value fails. Hidden and disabled controls are not checked. -/
def failures (today : Date) (c : Control) : Except Fault (List Failure) :=
  if !c.visible || c.field.disabled then .ok [] else Check.failures today c.value c.checks

end Control

/-- The values of controls, hidden ones included. -/
def Control.valuesOf (cs : List Control) : Record := cs.map fun c => (c.key, c.value)

/-- How many controls with conditions hold a value. -/
def Control.liveCount (cs : List Control) : Nat :=
  cs.countP fun c => c.field.hasConditions && c.isLive

/-- Refreshes every control against the same values, up to the first fault. -/
def Control.refreshAll (values : Record) : List Control → List Control × Option Fault
  | [] => ([], none)
  | c :: rest =>
    match c.refresh values with
    | .error e => (c :: rest, some e)
    | .ok d =>
      let (others, e) := refreshAll values rest
      (d :: others, e)

/-- Whether a pass that led from the first controls to the second has cleared a value. -/
def Control.hasCleared : List Control → List Control → Bool
  | c :: cs, d :: ds => c.isLive && !d.isLive || hasCleared cs ds
  | _, _ => false

/-! ## One pass -/

namespace Control

variable {values : Record}

@[simp] theorem present_field (shown : Bool) (c : Control) : (c.present shown).field = c.field := by
  unfold present; split <;> try split
  all_goals rfl

@[simp] theorem present_visible (shown : Bool) (c : Control) :
    (c.present shown).visible = shown := by
  cases shown with
  | false => rfl
  | true => cases h : c.visible <;> simp [present, h]

/-- A control that is shown keeps its value, a hidden one has none. -/
@[simp] theorem present_value (shown : Bool) (c : Control) :
    (c.present shown).value = if shown then c.value else .null := by
  cases shown with
  | false => rfl
  | true => cases h : c.visible <;> simp [present, h]

/-- **What a refresh does.** It leaves a control without conditions alone, and shows or hides one
with conditions as they say. -/
theorem refresh_cases {c d : Control} (h : c.refresh values = .ok d) :
    c.field.hasConditions = false ∧ d = c ∨
      c.field.hasConditions = true ∧
        ∃ shown, c.field.isShown values = .ok shown ∧ d = c.present shown := by
  unfold refresh at h
  cases hc : c.field.hasConditions with
  | false =>
    rw [hc] at h
    exact .inl ⟨rfl, (Except.ok.inj h).symm⟩
  | true =>
    rw [hc] at h
    cases hs : c.field.isShown values with
    | error e => rw [hs] at h; cases h
    | ok shown =>
      rw [hs] at h
      exact .inr ⟨rfl, shown, rfl, (Except.ok.inj h).symm⟩

theorem refresh_field {c d : Control} (h : c.refresh values = .ok d) : d.field = c.field := by
  rcases refresh_cases h with ⟨-, rfl⟩ | ⟨-, shown, -, rfl⟩
  · rfl
  · exact present_field shown c

/-- A refresh gives no control a value. -/
theorem refresh_isLive {c d : Control} (h : c.refresh values = .ok d) (hd : d.isLive = true) :
    c.isLive = true := by
  rcases refresh_cases h with ⟨-, rfl⟩ | ⟨-, shown, -, rfl⟩
  · exact hd
  · cases shown with
    | false => simp [isLive, Value.isNull] at hd
    | true => simpa [isLive] using hd

/-- Only a control with conditions can lose its value. -/
theorem refresh_clears {c d : Control} (h : c.refresh values = .ok d) (hc : c.isLive = true)
    (hd : d.isLive = false) : c.field.hasConditions = true := by
  rcases refresh_cases h with ⟨-, rfl⟩ | ⟨hf, -⟩
  · rw [hc] at hd
    cases hd
  · exact hf

/-- **What a pass does** to a control and those after it, when no fault ends it. -/
theorem refreshAll_cons_ok {c : Control} {rest next : List Control}
    (h : refreshAll values (c :: rest) = (next, none)) :
    ∃ d ds, c.refresh values = .ok d ∧ refreshAll values rest = (ds, none) ∧ next = d :: ds := by
  unfold refreshAll at h
  cases hc : c.refresh values with
  | error e => rw [hc] at h; cases h
  | ok d =>
    rcases hr : refreshAll values rest with ⟨ds, e⟩
    rw [hc, hr] at h
    obtain ⟨rfl, rfl⟩ := Prod.mk.inj h
    exact ⟨d, ds, rfl, rfl, rfl⟩

/-- **Progress.** No pass adds to the controls with conditions that hold a value, and one that
clears a value leaves fewer of them. -/
theorem liveCount_add_hasCleared_le {cs next : List Control}
    (h : refreshAll values cs = (next, none)) :
    liveCount next + (if hasCleared cs next then 1 else 0) ≤ liveCount cs := by
  induction cs generalizing next with
  | nil =>
    obtain ⟨rfl, -⟩ := Prod.mk.inj h
    simp [hasCleared]
  | cons c rest ih =>
    obtain ⟨d, ds, hd, hr, rfl⟩ := refreshAll_cons_ok h
    have hrest := ih hr
    have hlive := refresh_isLive hd
    have hclears := refresh_clears hd
    simp only [liveCount, List.countP_cons, hasCleared, refresh_field hd] at hrest ⊢
    rcases Bool.eq_false_or_eq_true d.isLive with hd' | hd'
    · simp only [hd', hlive hd', Bool.and_true, Bool.not_true, Bool.and_false, Bool.false_or]
      omega
    · rcases Bool.eq_false_or_eq_true c.isLive with hc' | hc'
      · simp only [hd', hc', hclears hc' hd', Bool.and_true, Bool.and_false, Bool.not_false,
          Bool.true_or, Bool.false_eq_true, if_true, if_false]
        split at hrest <;> omega
      · simp only [hd', hc', Bool.and_false, Bool.false_and, Bool.false_or]
        omega

theorem liveCount_lt {cs next : List Control} (h : refreshAll values cs = (next, none))
    (hc : hasCleared cs next = true) : liveCount next < liveCount cs := by
  have := liveCount_add_hasCleared_le h
  rw [if_pos hc] at this
  omega

end Control

/-- Refreshes controls again and again until a pass clears no value. A fault ends the last pass
where it is met. -/
def Control.settle (cs : List Control) : List Control × Option Fault :=
  match _h : refreshAll (valuesOf cs) cs with
  | (next, some e) => (next, some e)
  | (next, none) => if _hc : hasCleared cs next then settle next else (next, none)
termination_by liveCount cs
decreasing_by exact liveCount_lt _h _hc

namespace Control

variable {cs next : List Control}

/-- A fault ends the loop. -/
theorem settle_of_fault {e : Fault} (h : refreshAll (valuesOf cs) cs = (next, some e)) :
    settle cs = (next, some e) := by
  rw [settle]
  split <;> rename_i h' <;> rw [h] at h' <;> cases h'
  rfl

/-- A pass that clears a value is followed by another. -/
theorem settle_of_cleared (h : refreshAll (valuesOf cs) cs = (next, none))
    (hc : hasCleared cs next = true) : settle cs = settle next := by
  rw [settle]
  split <;> rename_i h' <;> rw [h] at h' <;> cases h'
  exact dif_pos hc

/-- A pass that clears no value is the last. -/
theorem settle_of_not_cleared (h : refreshAll (valuesOf cs) cs = (next, none))
    (hc : ¬hasCleared cs next = true) : settle cs = (next, none) := by
  rw [settle]
  split <;> rename_i h' <;> rw [h] at h' <;> cases h'
  exact dif_neg hc

end Control

end DynamicForm
