import DynamicForm.Proofs.Number.Rounding
import DynamicForm.Visibility

/-!
# Integers in conditions

Conditions compare numbers as binary64 numbers, so an integer is rounded before it is compared.
Rounding keeps the order of the integers, and different ones may come to the same number, but only
when both are large and close to each other.

- `Binary64.nearestUnits` is what an integer is rounded to, in units; it keeps the order.
- `Binary64.ofInt?_isSome`: which integers have a nearest number.
- `Condition.integers_compared`: what conditions make of two integers.
-/

namespace DynamicForm

namespace Binary64

variable {a b n : Int} {x y : Binary64}

/-- The least magnitude of an integer without a nearest finite number. -/
def integerLimit : Nat := 2 ^ 1024 - 2 ^ 970

/-- The integer is a binary64 number itself. -/
def isExact (n : Int) : Bool := (ofInt? n).any fun x => x.sameInt n

/-- The magnitude to which an integer is rounded, in units. -/
def roundedUnits (magnitude : Nat) : Nat := roundUnits (magnitude * unitsPerOne) 1

/-- What an integer is rounded to, in units. -/
def nearestUnits (n : Int) : Int :=
  if n < 0 then -(roundedUnits n.natAbs : Int) else roundedUnits n.natAbs

/-! ## Magnitudes

The sign of an integer is kept and its magnitude rounded. A magnitude is counted in units, the least
numbers that there are, so that all of this is arithmetic of natural numbers. -/

theorem unitsPerOne_pos : 0 < unitsPerOne := by decide +kernel

theorem roundedUnits_mono {m k : Nat} (h : m ≤ k) : roundedUnits m ≤ roundedUnits k :=
  roundUnits_mono (Nat.mul_le_mul_right _ h)

/-- A magnitude of 53 bits is not rounded, and neither is the next one. -/
theorem roundedUnits_of_le {m : Nat} (h : m ≤ 2 ^ 53) : roundedUnits m = m * unitsPerOne := by
  obtain ⟨k, hk⟩ : ∃ k, unitsPerOne = Nat.pow 2 k := ⟨1074, by decide +kernel⟩
  unfold roundedUnits
  rw [hk]
  exact roundUnits_shifted h k

/-- The limit lies halfway between the largest number and the one that would come after it. -/
theorem roundedUnits_lt_iff {m : Nat} : roundedUnits m < unitsLimit ↔ m < integerLimit := by
  -- the integers on both sides of the limit settle all others
  have hlast : roundedUnits (integerLimit - 1) < unitsLimit := by decide +kernel
  have hfirst : unitsLimit ≤ roundedUnits integerLimit := by decide +kernel
  constructor
  · intro h
    refine Nat.lt_of_not_le fun hle => ?_
    exact absurd (Nat.le_trans hfirst (roundedUnits_mono hle)) (Nat.not_le.mpr h)
  · intro h
    exact Nat.lt_of_le_of_lt (roundedUnits_mono (Nat.le_sub_one_of_lt h)) hlast

/-! ## Integers

What holds of magnitudes carries over, turned around where the integers are negative. -/

theorem ofInt?_eq (n : Int) : ofInt? n =
    if roundedUnits n.natAbs < unitsLimit then
      some (.finite (decide (n < 0)) (roundedUnits n.natAbs))
    else none := rfl

/-- **Range.** -/
theorem ofInt?_isSome : (ofInt? n).isSome ↔ n.natAbs < integerLimit := by
  rw [ofInt?_eq, ← roundedUnits_lt_iff]
  split <;> simp_all

/-- The rank of a number, by which numbers are compared, is the signed count of units. -/
theorem rank?_of_ofInt? (h : ofInt? n = some x) : x.rank? = some (nearestUnits n) := by
  rw [ofInt?_eq] at h
  split at h
  · obtain rfl := Option.some.inj h
    simp only [rank?, nearestUnits, decide_eq_true_eq]
  · cases h

/-- **Order.** -/
theorem nearestUnits_mono (h : a ≤ b) : nearestUnits a ≤ nearestUnits b := by
  unfold nearestUnits
  split
  · split
    · have hle : roundedUnits b.natAbs ≤ roundedUnits a.natAbs := roundedUnits_mono (by omega)
      omega
    · omega
  · split
    · omega
    · have hle : roundedUnits a.natAbs ≤ roundedUnits b.natAbs := roundedUnits_mono (by omega)
      omega

theorem nearestUnits_of_le (h : n.natAbs ≤ 2 ^ 53) : nearestUnits n = n * unitsPerOne := by
  unfold nearestUnits
  rw [roundedUnits_of_le h, Int.natCast_mul]
  split
  · next hn => rw [Int.ofNat_natAbs_of_nonpos (Int.le_of_lt hn), Int.neg_mul, Int.neg_neg]
  · next hn => rw [Int.natAbs_of_nonneg (Int.not_lt.mp hn)]

/-- A small integer is told from any other one, since there is a number between the two or one of
them is a number itself. -/
theorem nearestUnits_lt_of_small (h : a < b) (hsmall : a.natAbs < 2 ^ 53 ∨ b.natAbs < 2 ^ 53) :
    nearestUnits a < nearestUnits b := by
  have hunit : (0 : Int) < unitsPerOne := Int.natCast_pos.mpr unitsPerOne_pos
  -- the neighbour of the small one on the side of the other is exact as well
  rcases hsmall with ha | hb
  · calc nearestUnits a = a * unitsPerOne := nearestUnits_of_le (Nat.le_of_lt ha)
      _ < (a + 1) * unitsPerOne := Int.mul_lt_mul_of_pos_right (Int.lt_succ a) hunit
      _ = nearestUnits (a + 1) := (nearestUnits_of_le (by omega)).symm
      _ ≤ nearestUnits b := nearestUnits_mono h
  · calc nearestUnits a ≤ nearestUnits (b - 1) := nearestUnits_mono (by omega)
      _ = (b - 1) * unitsPerOne := nearestUnits_of_le (by omega)
      _ < b * unitsPerOne := Int.mul_lt_mul_of_pos_right (by omega) hunit
      _ = nearestUnits b := (nearestUnits_of_le (Nat.le_of_lt hb)).symm

/-- **Distance.** -/
theorem nearestUnits_within (n : Int) :
    2 ^ 53 * (nearestUnits n - n * unitsPerOne).natAbs ≤ n.natAbs * unitsPerOne := by
  have hwithin := roundUnits_within (n.natAbs * unitsPerOne)
  have habs : (nearestUnits n - n * unitsPerOne).natAbs =
      ((roundedUnits n.natAbs : Int) - (n.natAbs * unitsPerOne : Nat)).natAbs := by
    unfold nearestUnits
    rw [Int.natCast_mul]
    split
    · next hn =>
      rw [Int.ofNat_natAbs_of_nonpos (Int.le_of_lt hn), ← Int.natAbs_neg]
      congr 1
      rw [Int.neg_mul]
      omega
    · next hn => rw [Int.natAbs_of_nonneg (Int.not_lt.mp hn)]
  rw [habs]
  change 2 ^ 53 * roundedUnits n.natAbs ≤ _ ∧ _ ≤ 2 ^ 53 * roundedUnits n.natAbs + _ at hwithin
  generalize n.natAbs * unitsPerOne = units at hwithin ⊢
  omega

/-- An integer that is a number is rounded to itself. -/
theorem nearestUnits_of_isExact (h : isExact n) : nearestUnits n = n * unitsPerOne := by
  unfold isExact at h
  cases hx : ofInt? n with
  | none =>
    rw [hx] at h
    cases h
  | some x =>
    have hrank := rank?_of_ofInt? hx
    rw [hx] at h
    cases x with
    | nan => cases h
    | infinite negative => cases h
    | finite negative units => exact Option.some.inj (hrank.symm.trans (eq_of_beq h))

theorem nearestUnits_neg_iff : nearestUnits n < 0 ↔ n < 0 := by
  constructor
  · intro h
    refine Int.not_le.mp fun hn => ?_
    unfold nearestUnits at h
    rw [if_neg (Int.not_lt.mpr hn)] at h
    omega
  · intro hn
    calc nearestUnits n ≤ nearestUnits (-1) := nearestUnits_mono (by omega)
      _ = -1 * unitsPerOne := nearestUnits_of_le (by decide)
      _ < 0 := by
        have := unitsPerOne_pos
        omega

/-- The count of units settles the number. -/
theorem ofInt?_eq_iff (ha : a.natAbs < integerLimit) :
    ofInt? a = ofInt? b ↔ nearestUnits a = nearestUnits b := by
  constructor
  · intro h
    obtain ⟨x, hx⟩ := Option.isSome_iff_exists.mp (ofInt?_isSome.mpr ha)
    exact Option.some.inj ((rank?_of_ofInt? hx).symm.trans (rank?_of_ofInt? (h ▸ hx)))
  · intro h
    have hsign : a < 0 ↔ b < 0 := by rw [← nearestUnits_neg_iff, h, nearestUnits_neg_iff]
    have hunits : roundedUnits a.natAbs = roundedUnits b.natAbs := by
      unfold nearestUnits at h
      by_cases hneg : a < 0
      · rw [if_pos hneg, if_pos (hsign.mp hneg)] at h
        omega
      · rw [if_neg hneg, if_neg (mt hsign.mpr hneg)] at h
        omega
    rw [ofInt?_eq, ofInt?_eq, hunits]
    simp only [hsign]

/-- Different integers that come to the same number are close to each other. -/
theorem close_of_nearestUnits_eq (h : nearestUnits a = nearestUnits b) :
    2 ^ 53 * (a - b).natAbs ≤ a.natAbs + b.natAbs := by
  have ha := nearestUnits_within a
  have hb := nearestUnits_within b
  refine Nat.le_of_mul_le_mul_right ?_ unitsPerOne_pos
  have hscaled : (a - b).natAbs * unitsPerOne = (a * unitsPerOne - b * unitsPerOne).natAbs := by
    rw [← Int.sub_mul, Int.natAbs_mul, Int.natAbs_natCast]
  rw [Nat.mul_assoc, hscaled, Nat.add_mul]
  omega

/-- Rounding tells integers apart when one of them is small or both are numbers themselves. -/
theorem nearestUnits_lt (h : a < b)
    (hexact : a.natAbs < 2 ^ 53 ∨ b.natAbs < 2 ^ 53 ∨ isExact a ∧ isExact b) :
    nearestUnits a < nearestUnits b := by
  rcases hexact with ha | hb | ⟨ha, hb⟩
  · exact nearestUnits_lt_of_small h (.inl ha)
  · exact nearestUnits_lt_of_small h (.inr hb)
  · rw [nearestUnits_of_isExact ha, nearestUnits_of_isExact hb]
    exact Int.mul_lt_mul_of_pos_right h (Int.natCast_pos.mpr unitsPerOne_pos)

end Binary64

/-! ## Conditions

A condition compares two values by their numbers. For integers within the range there always is one,
and the three comparisons become those of the counts. -/

namespace Condition

open Binary64 (ofInt? nearestUnits integerLimit isExact)

variable {a b : Int} {x y : Binary64}

theorem roundInt_of_ofInt? (h : ofInt? a = some x) : Value.roundInt a = .ok x := by
  unfold Value.roundInt
  rw [h]
  rfl

/-- Both integers have numbers, so the comparison gives an answer. -/
theorem compareNumbers_ints (hx : ofInt? a = some x) (hy : ofInt? b = some y)
    (r : Binary64 → Binary64 → Bool) : compareNumbers r (.int a) (.int b) = .ok (r x y) := by
  have ha : (Value.int a).toNumber = .ok x := roundInt_of_ofInt? hx
  have hb : (Value.int b).toNumber = .ok y := roundInt_of_ofInt? hy
  unfold compareNumbers
  rw [ha, hb]
  rfl

theorem compareWith_nearest (hx : ofInt? a = some x) (hy : ofInt? b = some y)
    (r : Int → Int → Bool) :
    Binary64.compareWith r x y = r (nearestUnits a) (nearestUnits b) := by
  unfold Binary64.compareWith
  rw [Binary64.rank?_of_ofInt? hx, Binary64.rank?_of_ofInt? hy]

/-- What conditions compare are the counts of units. -/
theorem holds_ints (key : String) {values : Record} (hvalue : values.get? key = some (.int a))
    (ha : a.natAbs < integerLimit) (hb : b.natAbs < integerLimit) :
    holds ⟨key, .equals, .int b⟩ values = .ok (decide (nearestUnits a = nearestUnits b)) ∧
      holds ⟨key, .greaterThan, .int b⟩ values = .ok (decide (nearestUnits b < nearestUnits a)) ∧
      holds ⟨key, .lessThan, .int b⟩ values = .ok (decide (nearestUnits a < nearestUnits b)) := by
  obtain ⟨x, hx⟩ := Option.isSome_iff_exists.mp (Binary64.ofInt?_isSome.mpr ha)
  obtain ⟨y, hy⟩ := Option.isSome_iff_exists.mp (Binary64.ofInt?_isSome.mpr hb)
  have hholds : ∀ o, holds ⟨key, o, .int b⟩ values = test ⟨key, o, .int b⟩ (.int a) := by
    intro o
    unfold holds
    rw [hvalue]
  rw [hholds, hholds, hholds, ← compareWith_nearest hx hy fun m n => decide (m = n),
    ← compareWith_nearest hy hx fun m n => decide (m < n),
    ← compareWith_nearest hx hy fun m n => decide (m < n)]
  exact ⟨compareNumbers_ints hx hy Binary64.same, compareNumbers_ints hx hy fun x y => y.lt x,
    compareNumbers_ints hx hy Binary64.lt⟩

/-- **Integers** are compared as the numbers nearest to them. Exactly one of the three comparisons
holds, and none of them turns the order of the integers around; two integers are equal when they
have the same nearest number. So the comparison is exact when one of them is small or both are
numbers themselves, and integers are taken for equal only if they are close to each other. -/
theorem integers_compared (key : String) {values : Record}
    (hvalue : values.get? key = some (.int a))
    (ha : a.natAbs < integerLimit) (hb : b.natAbs < integerLimit) :
    ∃ equal greater less : Bool,
      holds ⟨key, .equals, .int b⟩ values = .ok equal ∧
      holds ⟨key, .greaterThan, .int b⟩ values = .ok greater ∧
      holds ⟨key, .lessThan, .int b⟩ values = .ok less ∧
      [equal, greater, less].count true = 1 ∧
      (equal = true ↔ ofInt? a = ofInt? b) ∧
      (equal = true → 2 ^ 53 * (a - b).natAbs ≤ a.natAbs + b.natAbs) ∧
      (greater = true → b < a) ∧ (less = true → a < b) ∧
      (a.natAbs < 2 ^ 53 ∨ b.natAbs < 2 ^ 53 ∨ isExact a ∧ isExact b →
        (equal = true ↔ a = b) ∧ (greater = true ↔ b < a) ∧ (less = true ↔ a < b)) := by
  obtain ⟨hequal, hgreater, hless⟩ := holds_ints key hvalue ha hb
  refine ⟨_, _, _, hequal, hgreater, hless, ?_, ?_, ?_, ?_, ?_, ?_⟩
  -- the counts are in one of three orders, and that decides all three comparisons
  · rcases Int.lt_trichotomy (nearestUnits a) (nearestUnits b) with h | h | h
    · simp [h, Int.ne_of_lt h, Int.not_lt.mpr (Int.le_of_lt h)]
    · simp [h]
    · simp [h, Int.ne_of_gt h, Int.not_lt.mpr (Int.le_of_lt h)]
  · rw [decide_eq_true_eq, Binary64.ofInt?_eq_iff ha]
  · intro h
    exact Binary64.close_of_nearestUnits_eq (of_decide_eq_true h)
  · intro h
    refine Int.not_le.mp fun hle => ?_
    exact absurd (of_decide_eq_true h) (Int.not_lt.mpr (Binary64.nearestUnits_mono hle))
  · intro h
    refine Int.not_le.mp fun hle => ?_
    exact absurd (of_decide_eq_true h) (Int.not_lt.mpr (Binary64.nearestUnits_mono hle))
  -- where rounding tells the integers apart, their order is that of the counts
  · intro hexact
    have hless : a < b → nearestUnits a < nearestUnits b := fun h =>
      Binary64.nearestUnits_lt h hexact
    have hgreater : b < a → nearestUnits b < nearestUnits a := fun h =>
      Binary64.nearestUnits_lt h (by rwa [or_left_comm, and_comm])
    simp only [decide_eq_true_eq]
    rcases Int.lt_trichotomy a b with h | rfl | h
    · have := hless h
      omega
    · omega
    · have := hgreater h
      omega

/-- Large integers are told apart when they are numbers themselves. -/
theorem integers_compared_large :
    holds ⟨"count", .lessThan, .int (2 ^ 60 + 256)⟩ [("count", .int (2 ^ 60))] = .ok true ∧
      holds ⟨"count", .equals, .int (2 ^ 60 + 256)⟩ [("count", .int (2 ^ 60))] = .ok false := by
  have hexact : isExact (2 ^ 60) ∧ isExact (2 ^ 60 + 256) := by decide +kernel
  have hvalue : Record.get? [("count", .int (2 ^ 60))] "count" = some (.int (2 ^ 60)) := rfl
  obtain ⟨equal, greater, less, hequal, -, hless, -, -, -, -, -, hall⟩ :=
    integers_compared (a := 2 ^ 60) (b := 2 ^ 60 + 256) "count" hvalue (by decide +kernel)
      (by decide +kernel)
  obtain ⟨hequal', -, hless'⟩ := hall (.inr (.inr hexact))
  rw [hless, hequal, hless'.mpr (by decide), Bool.eq_false_iff.mpr (mt hequal'.mp (by decide))]
  exact ⟨rfl, rfl⟩

/-- **Neighbours.** The first integer that is no binary64 number is taken for the one before it. -/
theorem not_exact_neighbours :
    (2 ^ 53 : Int).natAbs < integerLimit ∧ (2 ^ 53 + 1 : Int).natAbs < integerLimit ∧
      (2 ^ 53 : Int) < 2 ^ 53 + 1 ∧
      holds ⟨"count", .equals, .int (2 ^ 53 + 1)⟩ [("count", .int (2 ^ 53))] = .ok true ∧
      holds ⟨"count", .lessThan, .int (2 ^ 53 + 1)⟩ [("count", .int (2 ^ 53))] = .ok false := by
  have hfirst : (2 ^ 53 : Int).natAbs < integerLimit := by decide +kernel
  have hsecond : (2 ^ 53 + 1 : Int).natAbs < integerLimit := by decide +kernel
  have hvalue : Record.get? [("count", .int (2 ^ 53))] "count" = some (.int (2 ^ 53)) := rfl
  obtain ⟨hequal, -, hless⟩ := holds_ints "count" hvalue hfirst hsecond
  refine ⟨hfirst, hsecond, by decide, hequal.trans ?_, hless.trans ?_⟩
  · exact congrArg Except.ok (by decide +kernel)
  · exact congrArg Except.ok (by decide +kernel)

end Condition

end DynamicForm
