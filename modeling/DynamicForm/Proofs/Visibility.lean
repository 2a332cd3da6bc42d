import DynamicForm.Visibility

/-!
# What conditions read

A condition reads one value, that of its key. So what a list of conditions says is fixed by the
values of their keys, and values that are pieced together of two records satisfy what both satisfy.

The test of a list stops at the first condition that is false. One that comes after it is not looked
at, and a fault that it would meet is not met.

- `allHold_congr`: records that agree on the keys of the conditions give the same answer.
- `allHold_eq_true`: all hold when each of them does.
- `allHold_returns`: a test of conditions of which none meets a fault gives an answer.
-/

namespace DynamicForm

theorem Condition.holds_congr {c : Condition} {values others : Record}
    (h : values.get? c.fieldKey = others.get? c.fieldKey) : c.holds values = c.holds others := by
  rw [holds, holds, h]

/-- **Locality.** Only the keys of the conditions matter. -/
theorem allHold_congr {values others : Record} {conditions : List Condition}
    (h : ∀ c ∈ conditions, values.get? c.fieldKey = others.get? c.fieldKey) :
    allHold values conditions = allHold others conditions := by
  induction conditions with
  | nil => rfl
  | cons c rest ih =>
    rw [allHold, allHold, Condition.holds_congr (h c List.mem_cons_self),
      ih fun e he => h e (List.mem_cons_of_mem c he)]

/-- A condition that holds leaves the answer to the others. -/
theorem allHold_cons_of_true {values : Record} {c : Condition} {rest : List Condition}
    (h : c.holds values = .ok true) : allHold values (c :: rest) = allHold values rest := by
  rw [allHold, h]
  rfl

theorem allHold_cons_of_false {values : Record} {c : Condition} {rest : List Condition}
    (h : c.holds values = .ok false) : allHold values (c :: rest) = .ok false := by
  rw [allHold, h]
  rfl

/-- A fault ends the test. -/
theorem allHold_cons_of_error {values : Record} {c : Condition} {rest : List Condition} {e : Fault}
    (h : c.holds values = .error e) : allHold values (c :: rest) = .error e := by
  rw [allHold, h]
  rfl

/-- All of them are tested only if all of them hold. -/
theorem allHold_eq_true {values : Record} {conditions : List Condition} :
    allHold values conditions = .ok true ↔ ∀ c ∈ conditions, c.holds values = .ok true := by
  induction conditions with
  | nil => simp [allHold]
  | cons c rest ih =>
    rw [List.forall_mem_cons, ← ih]
    rcases h : c.holds values with e | b
    · simp [allHold, h, bind, Except.bind]
    · cases b with
      | false => simp [allHold_cons_of_false h]
      | true => simp [allHold_cons_of_true h]

/-- Values that are taken from two records satisfy what both records satisfy. -/
theorem allHold_of_mixed {values first second : Record} {conditions : List Condition}
    (h : ∀ key, values.get? key = first.get? key ∨ values.get? key = second.get? key)
    (h₁ : allHold first conditions = .ok true) (h₂ : allHold second conditions = .ok true) :
    allHold values conditions = .ok true := by
  rw [allHold_eq_true] at h₁ h₂ ⊢
  intro c hc
  rcases h c.fieldKey with hk | hk
  · rw [Condition.holds_congr hk]
    exact h₁ c hc
  · rw [Condition.holds_congr hk]
    exact h₂ c hc

/-- **No fault.** The test of a list gives an answer when that of each condition does. -/
theorem allHold_returns {values : Record} {conditions : List Condition}
    (h : ∀ c ∈ conditions, ∃ b, c.holds values = .ok b) :
    ∃ b, allHold values conditions = .ok b := by
  induction conditions with
  | nil => exact ⟨true, rfl⟩
  | cons c rest ih =>
    obtain ⟨hc, hrest⟩ := List.forall_mem_cons.mp h
    obtain ⟨b, hb⟩ := hc
    cases b with
    | false => exact ⟨false, allHold_cons_of_false hb⟩
    | true =>
      rw [allHold_cons_of_true hb]
      exact ih hrest

end DynamicForm
