import DynamicForm.Proofs.Form.Settling

/-!
# How many passes settling takes

What is shown may change back and forth between passes, so it says nothing about when they end. What
falls is the number of controls with conditions that still hold a value: a pass is followed by another
only if it has taken a value away, and no pass gives one.

- `Control.Takes` counts the passes of the loop, whatever ends it.
- `Control.Takes.le_cleared`: there is at most one pass more than values have been cleared.
- `Control.settle_passes`: the loop ends, in one way only, after at most one pass more than there are
  controls with conditions and a value.
-/

namespace DynamicForm.Control

/-- So many passes over the controls lead to the outcome. Every pass reads the values that the one
before has left. A fault ends the loop in the middle of a pass, and a pass that clears no value is the
last. -/
inductive Takes : List Control → Nat → List Control × Option Fault → Prop where
  | interrupted {cs next : List Control} {e : Fault}
      (pass : refreshAll (valuesOf cs) cs = (next, some e)) : Takes cs 1 (next, some e)
  | last {cs next : List Control} (pass : refreshAll (valuesOf cs) cs = (next, none))
      (quiet : hasCleared cs next = false) : Takes cs 1 (next, none)
  | again {cs next : List Control} {n : Nat} {out : List Control × Option Fault}
      (pass : refreshAll (valuesOf cs) cs = (next, none)) (cleared : hasCleared cs next = true)
      (rest : Takes next n out) : Takes cs (n + 1) out

variable {cs next : List Control} {n : Nat} {out : List Control × Option Fault}

/-! ## The passes are those of the loop -/

/-- The loop comes to its end. -/
theorem exists_takes (cs : List Control) : ∃ n, Takes cs n (settle cs) := by
  induction cs using settle.induct with
  | case1 cs next e pass =>
    rw [settle_of_fault pass]
    exact ⟨1, .interrupted pass⟩
  | case2 cs next pass cleared ih =>
    obtain ⟨n, rest⟩ := ih
    rw [settle_of_cleared pass cleared]
    exact ⟨n + 1, .again pass cleared rest⟩
  | case3 cs next pass quiet =>
    rw [settle_of_not_cleared pass quiet]
    exact ⟨1, .last pass (Bool.eq_false_iff.mpr quiet)⟩

theorem Takes.out_eq (h : Takes cs n out) : out = settle cs := by
  induction h with
  | interrupted pass => exact (settle_of_fault pass).symm
  | last pass quiet => exact (settle_of_not_cleared pass (Bool.eq_false_iff.mp quiet)).symm
  | again pass cleared _ ih => exact ih.trans (settle_of_cleared pass cleared).symm

/-- The controls fix how many passes there are: what a pass makes of them decides whether another
follows. -/
theorem Takes.count_eq {m : Nat} {out' : List Control × Option Fault} (h : Takes cs n out)
    (h' : Takes cs m out') : n = m := by
  -- Both counts begin with the same pass, so they agree on whether it was the last.
  induction h generalizing m with
  | interrupted pass =>
    cases h' with
    | interrupted _ => rfl
    | last pass' _ => cases pass.symm.trans pass'
    | again pass' _ _ => cases pass.symm.trans pass'
  | last pass quiet =>
    cases h' with
    | interrupted _ => rfl
    | last _ _ => rfl
    | again pass' cleared _ =>
      obtain ⟨rfl, -⟩ := Prod.mk.inj (pass.symm.trans pass')
      rw [quiet] at cleared
      cases cleared
  | again pass cleared _ ih =>
    cases h' with
    | interrupted pass' => cases pass.symm.trans pass'
    | last pass' quiet =>
      obtain ⟨rfl, -⟩ := Prod.mk.inj (pass.symm.trans pass')
      rw [quiet] at cleared
      cases cleared
    | again pass' _ rest' =>
      obtain ⟨rfl, -⟩ := Prod.mk.inj (pass.symm.trans pass')
      rw [ih rest']

/-! ## Counting

Every pass but the last one clears a value, and no pass brings one back. -/

/-- No refresh adds to the controls with conditions that hold a value. -/
theorem liveCount_le_of_refreshed (h : List.Forall₂ Refreshed cs next) :
    liveCount next ≤ liveCount cs := by
  induction h with
  | nil => exact Nat.le_refl _
  | @cons c d cs next hcd _ ih =>
    -- a control that is live after a refresh was live before
    have hlive : (d.field.hasConditions && d.isLive) = true →
        (c.field.hasConditions && c.isLive) = true := by
      rw [hcd.field]
      rcases hcd.value with hv | ⟨-, hv⟩
      · rw [isLive, isLive, hv]
        exact id
      · rw [isLive_eq_false.mpr hv, Bool.and_false]
        exact fun h => absurd h Bool.false_ne_true
    simp only [liveCount, List.countP_cons] at ih ⊢
    split
    · next hd =>
      rw [if_pos (hlive hd)]
      omega
    · omega

/-- **One pass more than values cleared.** Every pass but the last takes a value away, and the last
gives none back, also when a fault ends it. -/
theorem Takes.le_cleared (h : Takes cs n out) : n + liveCount out.1 ≤ liveCount cs + 1 := by
  induction h with
  | @interrupted cs next e pass =>
    have hle := liveCount_le_of_refreshed (refreshAll_refreshed (valuesOf cs) cs)
    rw [pass] at hle
    omega
  | @last cs next pass quiet =>
    have hle := liveCount_le_of_refreshed (refreshAll_refreshed (valuesOf cs) cs)
    rw [pass] at hle
    omega
  | again pass cleared _ ih =>
    have hlt := liveCount_lt pass cleared
    omega

/-- **How many passes.** The loop ends, whatever the conditions refer to. The number of its passes is
fixed, and it is at most one more than that of the controls with conditions that hold a value at the
start. -/
theorem settle_passes (cs : List Control) :
    ∃ n, n ≤ liveCount cs + 1 ∧ ∀ m out, Takes cs m out ↔ m = n ∧ out = settle cs := by
  obtain ⟨n, htakes⟩ := exists_takes cs
  refine ⟨n, ?_, fun m out => ⟨fun h => ⟨h.count_eq htakes, h.out_eq⟩, ?_⟩⟩
  · have hle := htakes.le_cleared
    omega
  · rintro ⟨rfl, rfl⟩
    exact htakes

end DynamicForm.Control
