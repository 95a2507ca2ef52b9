import Mathlib.Algebra.Order.Field.Power
import Mathlib.Data.Rat.Cast.Order
import Mathlib.Tactic.FieldSimp
import Mathlib.Tactic.Linarith
import Mathlib.Tactic.NormNum
import Mathlib.Tactic.Positivity
import Mathlib.Tactic.Ring
import ParserAlgebra.Number.Double

namespace ParserAlgebra

theorem cast_twoTo (exponent : Nat) : ((twoTo exponent : Nat) : ℚ) = 2 ^ exponent :=
  Nat.cast_pow 2 exponent

theorem cast_tenTo (exponent : Nat) : ((tenTo exponent : Nat) : ℚ) = 10 ^ exponent :=
  Nat.cast_pow 10 exponent

theorem tenTo_pos (exponent : Nat) : 0 < tenTo exponent :=
  Nat.pow_pos (by decide)

/-- Distances grow with the unit that they are counted in. -/
theorem abs_sub_mul {unit : ℚ} (positive : 0 < unit) (first second : ℚ) :
    |first - second| * unit = |first * unit - second * unit| := by
  rw [← sub_mul, abs_mul, abs_of_pos positive]

/-- A power with a negative exponent divides. -/
theorem zpow_eq_div (base : ℚ) (exponent : Int) :
    base ^ exponent = base ^ exponent.toNat / base ^ (-exponent).toNat := by
  rcases Int.le_total 0 exponent with positive | negative
  · have nothing : (-exponent).toNat = 0 := by omega
    rw [nothing, pow_zero, div_one, ← zpow_natCast, Int.toNat_of_nonneg positive]
  · have nothing : exponent.toNat = 0 := by omega
    rw [nothing, pow_zero, one_div, ← zpow_natCast, ← zpow_neg, Int.toNat_of_nonneg (by omega), neg_neg]

/-- A natural number is the rounded form of an exact number if it lies within half a unit, and is even in a tie. -/
structure Rounds (exact : ℚ) (rounded : Nat) : Prop where
  near : |exact - rounded| ≤ 1 / 2
  even : |exact - rounded| = 1 / 2 → rounded % 2 = 0

namespace Rounds

variable {quotient : Nat} {share : ℚ}

theorem below (positive : 0 ≤ share) (small : share < 1 / 2) : Rounds (quotient + share) quotient := by
  have distance : |(quotient : ℚ) + share - quotient| = share := by
    rw [add_sub_cancel_left, abs_of_nonneg positive]
  constructor
  · rw [distance]
    exact small.le
  · intro tie
    linarith

theorem above (large : 1 / 2 < share) (proper : share < 1) : Rounds (quotient + share) (quotient + 1) := by
  have distance : |(quotient : ℚ) + share - (quotient + 1 : Nat)| = 1 - share := by
    push_cast
    rw [add_sub_add_left_eq_sub, abs_of_nonpos (by linarith), neg_sub]
  constructor
  · rw [distance]
    linarith
  · intro tie
    linarith

theorem middle : Rounds (quotient + 1 / 2) (quotient + quotient % 2) := by
  constructor
  · rcases Nat.mod_two_eq_zero_or_one quotient with even | odd
    · rw [even, Nat.add_zero, add_sub_cancel_left, abs_of_nonneg (by norm_num)]
    · rw [odd]
      push_cast
      rw [add_sub_add_left_eq_sub, abs_of_nonpos (by norm_num)]
      norm_num
  · intro _
    omega

end Rounds

theorem rounds_roundQuotient (numerator : Nat) {denominator : Nat} (positive : 0 < denominator) :
    Rounds ((numerator : ℚ) / denominator) (roundQuotient numerator denominator) := by
  have split : (denominator : ℚ) * (numerator / denominator : Nat) + (numerator % denominator : Nat) =
      numerator := by
    exact_mod_cast Nat.div_add_mod numerator denominator
  have bound : numerator % denominator < denominator := Nat.mod_lt _ positive
  have positiveCast : (0 : ℚ) < denominator := by exact_mod_cast positive
  unfold roundQuotient
  dsimp only
  generalize numerator / denominator = quotient at *
  generalize numerator % denominator = remainder at *
  have parts : (numerator : ℚ) / denominator = quotient + (remainder : ℚ) / denominator := by
    rw [← split]
    field_simp
  have low : (0 : ℚ) ≤ (remainder : ℚ) / denominator := by positivity
  have proper : (remainder : ℚ) / denominator < 1 := by
    rw [div_lt_one positiveCast]
    exact_mod_cast bound
  rw [parts]
  split
  · apply Rounds.below low
    rw [div_lt_div_iff₀ positiveCast (by norm_num)]
    exact_mod_cast (by omega : remainder * 2 < 1 * denominator)
  · split
    · refine Rounds.above ?_ proper
      rw [div_lt_div_iff₀ (by norm_num) positiveCast]
      exact_mod_cast (by omega : 1 * denominator < remainder * 2)
    · have half : (remainder : ℚ) / denominator = 1 / 2 := by
        rw [div_eq_div_iff (ne_of_gt positiveCast) (by norm_num)]
        exact_mod_cast (by omega : remainder * 2 = 1 * denominator)
      rw [half]
      exact Rounds.middle

namespace Rounds

variable {exact : ℚ} {rounded : Nat}

/-- Every other natural number is at least as far away, and further away unless there is a tie. -/
theorem far (rounds : Rounds exact rounded) {other : Nat} (different : other ≠ rounded) :
    1 / 2 ≤ |exact - other| := by
  have apart : (1 : ℚ) ≤ |(rounded : ℚ) - other| := by
    have whole : (1 : Int) ≤ |(rounded : Int) - other| := Int.one_le_abs (by omega)
    exact_mod_cast whole
  have detour : |(rounded : ℚ) - other| ≤ |exact - rounded| + |exact - other| := by
    rw [abs_sub_comm exact]
    exact abs_sub_le _ _ _
  linarith [rounds.near]

theorem nearest (rounds : Rounds exact rounded) (other : Nat) : |exact - rounded| ≤ |exact - other| := by
  by_cases same : other = rounded
  · rw [same]
  · exact rounds.near.trans (rounds.far same)

theorem even_of_tie (rounds : Rounds exact rounded) {other : Nat} (different : other ≠ rounded)
    (tie : |exact - other| = |exact - rounded|) : rounded % 2 = 0 := by
  apply rounds.even
  have far := rounds.far different
  have near := rounds.near
  linarith

/-- A whole number below the exact one is not passed. -/
theorem le_of_le (rounds : Rounds exact rounded) {bound : Nat} (below : (bound : ℚ) ≤ exact) :
    bound ≤ rounded := by
  by_contra less
  have apart : (rounded : ℚ) + 1 ≤ bound := by exact_mod_cast Nat.lt_of_not_le less
  have near := (abs_le.1 rounds.near).2
  linarith

theorem le_of_ge (rounds : Rounds exact rounded) {bound : Nat} (above : exact ≤ bound) : rounded ≤ bound := by
  by_contra more
  have apart : (bound : ℚ) + 1 ≤ rounded := by exact_mod_cast Nat.lt_of_not_le more
  have near := (abs_le.1 rounds.near).1
  linarith

/-- A whole number is its own rounded form. -/
theorem eq_of_eq (rounds : Rounds exact rounded) {whole : Nat} (same : exact = whole) : rounded = whole :=
  Nat.le_antisymm (rounds.le_of_ge same.le) (rounds.le_of_le same.ge)

end Rounds

end ParserAlgebra
