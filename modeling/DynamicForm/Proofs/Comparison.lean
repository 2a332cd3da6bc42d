import DynamicForm.Proofs.Visibility

/-!
# Faults of comparisons

Values are compared as numbers by going to the nearest binary64 number. An integer beyond the range
of these has no nearest one, and a comparison that needs it meets a fault. There is no other way in
which a condition fails to give an answer.

The fault is the same wherever it is met, so that neither the order in which conditions are tested
nor the one in which two values are rounded can be told from it.

- `Condition.overflows` says when a condition needs a number that there is not.
- `Condition.test_eq_error`: the test of a condition meets a fault exactly then.
- `allHold_fault`: a list of conditions meets a fault only at such a condition.
-/

namespace DynamicForm

namespace Value

/-- An integer without a nearest number. -/
def isTooLarge : Value → Bool
  | int n => (Binary64.ofInt? n).isNone
  | _ => false

/-- Booleans, numbers and texts, the values that compare as numbers with each other. -/
def isCountable (v : Value) : Bool := v.boolAsFloat.isScalar

variable {a b v : Value} {e : Fault}

/-- Rounding fails for the integers that are out of range, and for nothing else. -/
theorem roundInt_eq_error {n : Int} : roundInt n = .error e ↔
    (Binary64.ofInt? n).isNone = true ∧ e = .integerTooLarge := by
  unfold roundInt
  cases Binary64.ofInt? n with
  | none => exact ⟨fun h => ⟨rfl, (Except.error.inj h).symm⟩, fun h => congrArg _ h.2.symm⟩
  | some x => simp

/-- Only integers are rounded. Any other value has a number, if need be the one that is none. -/
theorem toNumber_eq_error : v.toNumber = .error e ↔ v.isTooLarge = true ∧ e = .integerTooLarge := by
  cases v with
  | int n => exact roundInt_eq_error
  | _ => simp [toNumber, isTooLarge]

theorem isTooLarge_of_toNumber {x : Binary64} (h : v.toNumber = .ok x) : v.isTooLarge = false := by
  refine Bool.eq_false_iff.mpr fun hlarge => ?_
  rw [toNumber_eq_error.mpr ⟨hlarge, rfl⟩] at h
  cases h

/-- The left number is found first, and a fault there is met before the right one is looked for. -/
theorem compareNumbers_eq_error {r : Binary64 → Binary64 → Bool} :
    Condition.compareNumbers r a b = .error e ↔
      (a.isTooLarge || b.isTooLarge) = true ∧ e = .integerTooLarge := by
  unfold Condition.compareNumbers
  rcases ha : a.toNumber with f | x
  · obtain ⟨hlarge, rfl⟩ := toNumber_eq_error.mp ha
    simp [bind, Except.bind, hlarge, eq_comm]
  · rcases hb : b.toNumber with f | y
    · obtain ⟨hlarge, rfl⟩ := toNumber_eq_error.mp hb
      simp [bind, Except.bind, hlarge, eq_comm]
    · simp [bind, Except.bind, pure, Except.pure, isTooLarge_of_toNumber ha,
        isTooLarge_of_toNumber hb]

/-- Two values without a fault of their own are compared without one. -/
theorem looseEquals_eq_error : a.looseEquals b = .error e ↔
    (a.isTooLarge || b.isTooLarge) = true ∧ (a.isCountable && b.isCountable) = true ∧
      e = .integerTooLarge := by
  have hnumbers : ∀ x y : Value, x.sameNumber y = .error e ↔
      (x.isTooLarge || y.isTooLarge) = true ∧ e = .integerTooLarge :=
    fun x y => compareNumbers_eq_error (r := Binary64.same)
  cases a <;> cases b <;>
    simp [looseEquals, looseEqualsPlain, isNull, boolAsFloat, isScalar, isCountable, isTooLarge,
      hnumbers]

end Value

namespace Condition

variable {c : Condition} {v : Value} {e : Fault}

/-- Whether the test of a value needs the number of an integer that has none. Equality needs numbers
only of values that compare as numbers, the order of any values. -/
def overflows (c : Condition) (v : Value) : Bool :=
  (v.isTooLarge || c.value.isTooLarge) &&
    match c.operator with
    | .equals => v.isCountable && c.value.isCountable
    | .notEquals => v.isCountable && c.value.isCountable
    | .greaterThan => true
    | .lessThan => true
    | _ => false

/-- **Faults of a condition.** -/
theorem test_eq_error : c.test v = .error e ↔ c.overflows v = true ∧ e = .integerTooLarge := by
  have hloose : v.looseEquals c.value = .error e ↔
      (v.isTooLarge || c.value.isTooLarge) = true ∧
        (v.isCountable && c.value.isCountable) = true ∧ e = .integerTooLarge :=
    Value.looseEquals_eq_error
  unfold test overflows
  -- equality needs both to be countable, order needs numbers of any two values
  cases c.operator with
  | equals => simp [hloose, and_assoc]
  | notEquals =>
    rw [← and_assoc] at hloose
    rw [Bool.and_eq_true, ← hloose]
    cases v.looseEquals c.value <;> simp [Except.map]
  | greaterThan =>
    simp only [Bool.and_true]
    exact Value.compareNumbers_eq_error
  | lessThan =>
    simp only [Bool.and_true]
    exact Value.compareNumbers_eq_error
  | contains => simp
  | isEmpty => simp
  | isNotEmpty => simp

end Condition

/-- **Faults of a list of conditions.** One of them overflows on the value of its key. -/
theorem allHold_fault {values : Record} {conditions : List Condition} {e : Fault}
    (h : allHold values conditions = .error e) :
    e = .integerTooLarge ∧
      ∃ c ∈ conditions, ∃ v, values.get? c.fieldKey = some v ∧ c.overflows v = true := by
  induction conditions with
  | nil => cases h
  | cons c rest ih =>
    -- the first condition that is false or meets a fault ends the test, so the others do not
    -- count
    rcases hc : c.holds values with f | b
    · rw [allHold_cons_of_error hc] at h
      obtain rfl := Except.error.inj h
      unfold Condition.holds at hc
      cases hv : values.get? c.fieldKey with
      | none =>
        rw [hv] at hc
        cases hc
      | some v =>
        rw [hv] at hc
        obtain ⟨hoverflows, he⟩ := Condition.test_eq_error.mp hc
        exact ⟨he, c, List.mem_cons_self, v, hv, hoverflows⟩
    · cases b with
      | false =>
        rw [allHold_cons_of_false hc] at h
        cases h
      | true =>
        rw [allHold_cons_of_true hc] at h
        obtain ⟨he, t, ht, hfound⟩ := ih h
        exact ⟨he, t, List.mem_cons_of_mem c ht, hfound⟩

end DynamicForm
