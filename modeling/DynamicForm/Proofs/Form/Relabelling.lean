import DynamicForm.Form.Control

/-!
# Relabelled controls

Settling reads of a field its key and its conditions. So controls whose fields are changed in any
other way settle in the same way.

The change may be anything that keeps the two: the number of a field can be taken away, or a pattern
that is ignored. Each layer of the loop has its lemma, and the loop itself follows by induction on
the passes that it makes.

- `Field.Relabels` holds of a change of fields that keeps keys and conditions.
- `Control.settle_relabel`: the loop makes the same of relabelled controls.
-/

namespace DynamicForm

/-- The change of a field keeps what decides when a field is shown. -/
structure Field.Relabels (g : Field → Field) : Prop where
  key : ∀ f, (g f).key = f.key
  conditions : ∀ f, (g f).conditions = f.conditions

namespace Control

variable {g : Field → Field}

/-- The control with its field changed. -/
def relabel (g : Field → Field) (c : Control) : Control := { c with field := g c.field }

/-- Showing and hiding go by the checks, which are kept in the control. -/
theorem relabel_present (g : Field → Field) (shown : Bool) (c : Control) :
    (c.relabel g).present shown = (c.present shown).relabel g := by
  obtain ⟨field, compiled, value, checks, visible, touched⟩ := c
  cases shown <;> cases visible <;> rfl

/-- A refresh asks whether the conditions hold, and sets the control accordingly. -/
theorem relabel_refresh (hg : Field.Relabels g) (values : Record) (c : Control) :
    (c.relabel g).refresh values = (c.refresh values).map (relabel g) := by
  have hlist : (g c.field).conditionList = c.field.conditionList :=
    congrArg (Option.getD · []) (hg.conditions c.field)
  have hconditions : (c.relabel g).field.hasConditions = c.field.hasConditions :=
    congrArg (fun cs : List Condition => !cs.isEmpty) hlist
  have hshown : (c.relabel g).field.isShown values = c.field.isShown values :=
    congrArg (allHold values) hlist
  rw [refresh, refresh, hconditions, hshown]
  split
  · cases c.field.isShown values with
    | error e => rfl
    | ok shown => exact congrArg Except.ok (relabel_present g shown c)
  · rfl

theorem refreshAll_relabel (hg : Field.Relabels g) (values : Record) (cs : List Control) :
    refreshAll values (cs.map (relabel g)) =
      ((refreshAll values cs).1.map (relabel g), (refreshAll values cs).2) := by
  induction cs with
  | nil => rfl
  | cons c rest ih =>
    rw [List.map_cons, refreshAll, refreshAll, relabel_refresh hg, ih]
    cases c.refresh values <;> rfl

/-- Whether a pass has cleared a value is seen from the values. -/
theorem hasCleared_relabel (g : Field → Field) (cs next : List Control) :
    hasCleared (cs.map (relabel g)) (next.map (relabel g)) = hasCleared cs next := by
  induction cs generalizing next with
  | nil => rfl
  | cons c rest ih =>
    cases next with
    | nil => rfl
    | cons d ds => exact congrArg (c.isLive && !d.isLive || ·) (ih ds)

theorem valuesOf_relabel (hg : Field.Relabels g) (cs : List Control) :
    valuesOf (cs.map (relabel g)) = valuesOf cs := by
  rw [valuesOf, List.map_map]
  exact List.map_congr_left fun c _ => congrArg (·, c.value) (hg.key c.field)

/-- **Settling** makes the same of relabelled controls. -/
theorem settle_relabel (hg : Field.Relabels g) (cs : List Control) :
    settle (cs.map (relabel g)) = ((settle cs).1.map (relabel g), (settle cs).2) := by
  have hpass := fun cs => refreshAll_relabel hg (valuesOf cs) cs
  -- a pass that meets a fault, one that clears a value, and the last one
  induction cs using settle.induct with
  | case1 cs next e h =>
    rw [settle_of_fault h]
    refine settle_of_fault ?_
    rw [valuesOf_relabel hg, hpass, h]
  | case2 cs next h hc ih =>
    rw [settle_of_cleared h hc, ← ih]
    refine settle_of_cleared ?_ ((hasCleared_relabel g cs next).trans hc)
    rw [valuesOf_relabel hg, hpass, h]
  | case3 cs next h hc =>
    rw [settle_of_not_cleared h hc]
    refine settle_of_not_cleared ?_ (by rwa [hasCleared_relabel])
    rw [valuesOf_relabel hg, hpass, h]

theorem relabel_patch (hg : Field.Relabels g) (values : Record) (c : Control) :
    (c.patch values).relabel g = (c.relabel g).patch values := by
  have hkey : (c.relabel g).key = c.key := hg.key c.field
  rw [patch, patch, hkey]
  cases values.get? c.key <;> rfl

theorem relabel_assign (hg : Field.Relabels g) (values : Record) (c : Control) :
    (c.assign values).relabel g = (c.relabel g).assign values := by
  have hkey : (c.relabel g).key = c.key := hg.key c.field
  rw [assign, assign, hkey]
  cases values.get? c.key <;> rfl

end Control

end DynamicForm
