import DynamicForm.Number.Binary64
import Mathlib.Algebra.Order.Ring.Int

/-!
# Rounding

A count of units is rounded to a multiple of the spacing at its magnitude. Rounding keeps the order,
so a multiple of the spacing is a wall that it does not pass, and what is such a multiple itself
stays as it is.

- `Binary64.nearest_mono`, `Binary64.nearest_within`: rounding a quotient keeps the order and moves
  it by one half at most.
- `Binary64.roundUnits_mono`: so does rounding a count, although the spacing changes with it.
- `Binary64.roundUnits_of_dvd`: a multiple of the spacing is not moved.
- `Binary64.roundUnits_within`: a count is moved by one part in `2 ^ 53` at most.
-/

namespace DynamicForm.Binary64

variable {m n k den : Nat}

/-! ## Quotients

Halves are rounded to the even neighbour. For what follows it matters only that one of the two
neighbours is taken, and the nearer one if they differ. -/

/-- A quotient is rounded to one of its two neighbours. -/
theorem nearest_bounds (num den : Nat) :
    num / den ≤ nearest num den ∧ nearest num den ≤ num / den + 1 := by
  unfold nearest
  dsimp only
  split
  · omega
  · split <;> omega

/-- Two quotients between the same neighbours are rounded alike, or the larger one to the larger. -/
theorem nearest_mono (h : m ≤ n) (den : Nat) : nearest m den ≤ nearest n den := by
  have hquotient : m / den ≤ n / den := Nat.div_le_div_right h
  rcases Nat.lt_or_eq_of_le hquotient with hlt | heq
  · have hm := (nearest_bounds m den).2
    have hn := (nearest_bounds n den).1
    omega
  · have hm := Nat.div_add_mod m den
    have hn := Nat.div_add_mod n den
    rw [heq] at hm
    have hrest : m % den ≤ n % den := by omega
    unfold nearest
    dsimp only
    rw [heq]
    -- the larger rest is not rounded down where the smaller one is rounded up
    repeat' split
    all_goals omega

/-- The distance is one half at most, from either side. -/
theorem nearest_within (hden : 0 < den) (num : Nat) :
    2 * (den * nearest num den) ≤ 2 * num + den ∧ 2 * num ≤ 2 * (den * nearest num den) + den := by
  have hnum := Nat.div_add_mod num den
  have hrest := Nat.mod_lt num hden
  have hup : den * (num / den + 1) = den * (num / den) + den := Nat.mul_succ ..
  unfold nearest
  dsimp only
  split
  · omega
  · split
    · omega
    · -- a half is left as it is or goes up
      rcases Nat.mod_two_eq_zero_or_one (num / den) with heven | hodd
      · rw [heven, Nat.add_zero]
        omega
      · rw [hodd]
        omega

theorem nearest_mul (hden : 0 < den) (k : Nat) : nearest (den * k) den = k := by
  unfold nearest
  rw [Nat.mul_mod_right, Nat.mul_div_cancel_left k hden]
  exact if_pos hden

/-! ## Counts

The spacing depends on the count: it doubles at each power of two. So the two lemmas on walls come
first, and the order follows from them and not from that of quotients. -/

theorem spacing_pos (n : Nat) : 0 < spacing n := Nat.two_pow_pos _

theorem roundUnits_one (n : Nat) : roundUnits n 1 = spacing n * nearest n (spacing n) := by
  unfold roundUnits
  dsimp only
  rw [Nat.div_one, Nat.one_mul]

/-- A multiple of the spacing is not passed from above. -/
theorem le_roundUnits (hk : spacing n ∣ k) (h : k ≤ n) : k ≤ roundUnits n 1 := by
  obtain ⟨i, rfl⟩ := hk
  rw [roundUnits_one]
  refine Nat.mul_le_mul_left _ ?_
  calc i = nearest (spacing n * i) (spacing n) := (nearest_mul (spacing_pos n) i).symm
    _ ≤ nearest n (spacing n) := nearest_mono h _

/-- A multiple of the spacing is not passed from below. -/
theorem roundUnits_le (hk : spacing n ∣ k) (h : n ≤ k) : roundUnits n 1 ≤ k := by
  obtain ⟨i, rfl⟩ := hk
  rw [roundUnits_one]
  refine Nat.mul_le_mul_left _ ?_
  calc nearest n (spacing n) ≤ nearest (spacing n * i) (spacing n) := nearest_mono h _
    _ = i := nearest_mul (spacing_pos n) i

theorem roundUnits_of_dvd (h : spacing n ∣ n) : roundUnits n 1 = n :=
  Nat.le_antisymm (roundUnits_le h (Nat.le_refl n)) (le_roundUnits h (Nat.le_refl n))

theorem spacing_dvd (h : n.log2 ≤ k + 52) : spacing n ∣ 2 ^ k :=
  Nat.pow_dvd_pow 2 (by omega)

/-- A count of 53 bits at any magnitude is not moved, and neither is the next power of two. -/
theorem roundUnits_shifted (h : m ≤ 2 ^ 53) (k : Nat) :
    roundUnits (m * Nat.pow 2 k) 1 = m * Nat.pow 2 k := by
  refine roundUnits_of_dvd ?_
  rcases Nat.lt_or_eq_of_le h with hlt | rfl
  · refine Nat.dvd_trans (spacing_dvd ?_) (Nat.dvd_mul_left ..)
    rcases Nat.eq_zero_or_pos m with rfl | hm
    · rw [Nat.zero_mul]
      exact Nat.zero_le _
    · have hpos : m * Nat.pow 2 k ≠ 0 := Nat.ne_of_gt (Nat.mul_pos hm (Nat.two_pow_pos k))
      refine Nat.le_of_lt_succ ((Nat.log2_lt hpos).mpr ?_)
      calc m * Nat.pow 2 k < 2 ^ 53 * 2 ^ k := Nat.mul_lt_mul_of_pos_right hlt (Nat.two_pow_pos k)
        _ = 2 ^ (k + 52 + 1) := by rw [← Nat.pow_add, Nat.add_comm 53 k]
  · change spacing (2 ^ 53 * 2 ^ k) ∣ 2 ^ 53 * 2 ^ k
    rw [← Nat.pow_add]
    refine spacing_dvd ?_
    rw [Nat.log2_two_pow]
    omega

/-- **Order.** Where the spacing grows there is a power of two between the counts, and it is a
multiple of both spacings. -/
theorem roundUnits_mono (h : m ≤ n) : roundUnits m 1 ≤ roundUnits n 1 := by
  rcases Nat.eq_zero_or_pos m with rfl | hm
  · exact Nat.le_trans (Nat.le_of_eq (roundUnits_of_dvd (Nat.dvd_zero _))) (Nat.zero_le _)
  have hn : n ≠ 0 := by omega
  have hpower : 2 ^ m.log2 ≤ n := Nat.le_trans (Nat.log2_self_le (Nat.ne_of_gt hm)) h
  rcases Nat.lt_or_eq_of_le ((Nat.le_log2 hn).mpr hpower) with hlt | heq
  · have hbelow : m ≤ 2 ^ n.log2 :=
      Nat.le_of_lt (Nat.lt_of_lt_of_le Nat.lt_log2_self (Nat.pow_le_pow_right Nat.two_pos hlt))
    calc roundUnits m 1 ≤ 2 ^ n.log2 := roundUnits_le (spacing_dvd (by omega)) hbelow
      _ ≤ roundUnits n 1 := le_roundUnits (spacing_dvd (by omega)) (Nat.log2_self_le hn)
  · have hspacing : spacing m = spacing n := congrArg (fun k => Nat.pow 2 (k - 52)) heq
    rw [roundUnits_one, roundUnits_one, hspacing]
    exact Nat.mul_le_mul_left _ (nearest_mono h _)

/-- **Distance.** Half of the spacing is one part in `2 ^ 53` at most. -/
theorem roundUnits_within (n : Nat) :
    2 ^ 53 * roundUnits n 1 ≤ 2 ^ 53 * n + n ∧ 2 ^ 53 * n ≤ 2 ^ 53 * roundUnits n 1 + n := by
  rcases Nat.lt_or_ge n.log2 52 with hsmall | hlarge
  · have hone : spacing n = 1 := congrArg (Nat.pow 2) (Nat.sub_eq_zero_of_le (Nat.le_of_lt hsmall))
    rw [roundUnits_of_dvd (hone ▸ Nat.one_dvd n)]
    omega
  · have hn : n ≠ 0 := by
      rintro rfl
      exact absurd hlarge (by decide)
    have hspacing : 2 ^ 52 * spacing n ≤ n := by
      calc 2 ^ 52 * spacing n = 2 ^ (52 + (n.log2 - 52)) := (Nat.pow_add ..).symm
        _ = 2 ^ n.log2 := congrArg _ (Nat.add_sub_cancel' hlarge)
        _ ≤ n := Nat.log2_self_le hn
    have hhalf := nearest_within (spacing_pos n) n
    rw [← roundUnits_one] at hhalf
    omega

end DynamicForm.Binary64
