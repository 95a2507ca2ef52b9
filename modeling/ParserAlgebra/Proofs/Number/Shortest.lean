import Mathlib.Data.Nat.Cast.Order.Field
import ParserAlgebra.Number.Shortest
import ParserAlgebra.Proofs.Number.Decimal
import ParserAlgebra.Proofs.Number.Nearest

namespace ParserAlgebra.Scientific

open Double

variable {index digits count : Nat} {exact step : ℚ} {exponent power top : Int}

/-- This function gives the exact value of a decimal magnitude. -/
def value (decimal : Scientific) : ℚ :=
  decimal.digits * 10 ^ decimal.exponent

/-- This function gives the exact value of a magnitude of doubles. -/
def magnitude (index : Nat) : ℚ :=
  units index / unitsInOne

theorem units_cast_pos : (0 : ℚ) < unitsInOne := by
  exact_mod_cast unitsInOne_pos

/-- Moving zeros into the exponent keeps the value. -/
theorem value_stripZeros (digits : Nat) (exponent : Int) :
    (stripZeros digits exponent).value = digits * 10 ^ exponent := by
  induction digits, exponent using stripZeros.induct with
  | case1 digits exponent zeros inductionHypothesis =>
      have whole : (digits : ℚ) = (digits / 10 : Nat) * 10 := by
        exact_mod_cast (by omega : digits = digits / 10 * 10)
      rw [stripZeros, if_pos zeros, inductionHypothesis, zpow_add_one₀ (by norm_num),
        mul_comm ((10 : ℚ) ^ exponent), ← mul_assoc, ← whole]
  | case2 digits exponent zeros =>
      rw [stripZeros, if_neg zeros]
      rfl

/-- A decimal reads back as a magnitude if it is the nearest one to the decimal. -/
theorem readsBack_iff (inside : index < magnitudeCount) :
    readsBack index digits exponent = true ↔ NearestIndex (digits * 10 ^ exponent * unitsInOne) index := by
  obtain ⟨found, result, nearest⟩ := nearest_iff.1 (ofDecimal_nearest false digits exponent)
  rw [readsBack, decide_eq_true_eq, result]
  constructor
  · intro same
    rw [ofIndex, ofIndex, dif_pos inside] at same
    split at same
    · simp only [Double.finite.injEq, Fin.mk.injEq, true_and] at same
      exact same ▸ nearest
    · cases same
  · intro here
    rw [nearest.unique here]

/-- Two whole numbers are nearer to a quotient than one. -/
theorem eq_or_succ_of_near {numerator denominator number : Nat} (positive : 0 < denominator)
    (near : |(number : ℚ) - numerator / denominator| < 1) :
    number = numerator / denominator ∨ number = numerator / denominator + 1 := by
  have low : ((numerator / denominator : Nat) : ℚ) ≤ numerator / denominator := Nat.cast_div_le
  have high : (numerator : ℚ) / denominator < (numerator / denominator : Nat) + 1 := by
    rw [div_lt_iff₀ (by exact_mod_cast positive), mul_comm]
    exact_mod_cast Nat.lt_mul_div_succ numerator positive
  obtain ⟨below, above⟩ := abs_lt.1 near
  have lower : numerator / denominator < number + 1 := by
    exact_mod_cast (by linarith : ((numerator / denominator : Nat) : ℚ) < number + 1)
  have upper : number < numerator / denominator + 2 := by
    exact_mod_cast (by linarith : (number : ℚ) < (numerator / denominator : Nat) + 2)
  omega

theorem roundQuotient_eq_or_succ (numerator denominator : Nat) :
    roundQuotient numerator denominator = numerator / denominator ∨
      roundQuotient numerator denominator = numerator / denominator + 1 := by
  unfold roundQuotient
  dsimp only
  split
  · exact .inl rfl
  · split
    · exact .inr rfl
    · omega

/-- The quotient that is rounded to a grid is the magnitude in steps of the grid. -/
theorem magnitude_div (index : Nat) (exponent : Int) :
    ((units index * tenTo (-exponent).toNat : Nat) : ℚ) / (unitsInOne * tenTo exponent.toNat : Nat) =
      magnitude index / 10 ^ exponent := by
  rw [magnitude, zpow_eq_div, Nat.cast_mul, Nat.cast_mul, cast_tenTo, cast_tenTo, div_div_div_eq]

/-- A neighbour reads back, and where there is none, nothing nearer than one step on the grid reads back. -/
theorem neighbour_spec (exponent : Int) (inside : index < magnitudeCount) :
    match neighbour index exponent with
    | some digits => NearestIndex (digits * 10 ^ exponent * unitsInOne) index
    | none => ∀ digits : Nat, |digits * 10 ^ exponent - magnitude index| < 10 ^ exponent →
        ¬ NearestIndex (digits * 10 ^ exponent * unitsInOne) index := by
  unfold neighbour
  dsimp only
  have quotient := magnitude_div index exponent
  have positive : 0 < unitsInOne * tenTo exponent.toNat := Nat.mul_pos unitsInOne_pos (tenTo_pos exponent.toNat)
  generalize units index * tenTo (-exponent).toNat = numerator at *
  generalize unitsInOne * tenTo exponent.toNat = denominator at *
  have rounded := roundQuotient_eq_or_succ numerator denominator
  generalize roundQuotient numerator denominator = nearest at *
  generalize chosen : (if nearest = numerator / denominator then numerator / denominator + 1
    else numerator / denominator) = farther
  by_cases first : readsBack index nearest exponent = true
  · rw [if_pos first]
    exact (readsBack_iff inside).1 first
  rw [if_neg first]
  by_cases second : readsBack index farther exponent = true
  · rw [if_pos second]
    exact (readsBack_iff inside).1 second
  rw [if_neg second]
  intro digits near here
  have back := (readsBack_iff inside).2 here
  have step : (0 : ℚ) < 10 ^ exponent := by positivity
  have closer : |(digits : ℚ) - numerator / denominator| < 1 := by
    rw [quotient, ← mul_lt_mul_iff_left₀ step, abs_sub_mul step, div_mul_cancel₀ _ (ne_of_gt step), one_mul]
    exact near
  -- The two candidates are the two whole numbers around the quotient.
  have candidate : digits = nearest ∨ digits = farther := by
    have around := eq_or_succ_of_near positive closer
    split at chosen <;> omega
  rcases candidate with rfl | rfl
  · exact first back
  · exact second back

/-- The digits of a scaled quotient show between which powers of ten the quotient lies. -/
theorem digitCount_quotient {numerator denominator : Nat} (places : Nat) (positive : 0 < denominator)
    (enough : denominator ≤ numerator * tenTo places)
    (counted : top = digitCount (numerator * tenTo places / denominator) - places) :
    (10 : ℚ) ^ (top - 1) ≤ (numerator : ℚ) / denominator ∧ (numerator : ℚ) / denominator < 10 ^ top := by
  have ten : (10 : ℚ) ≠ 0 := by norm_num
  have divisor : (0 : ℚ) < denominator := by exact_mod_cast positive
  have scale : (0 : ℚ) < 10 ^ places := by positivity
  generalize whole : numerator * tenTo places / denominator = scaled at counted
  have nonzero : scaled ≠ 0 := by
    rw [← whole]
    exact (Nat.div_pos enough positive).ne'
  have least : (scaled : ℚ) ≤ numerator / denominator * 10 ^ places := by
    have floor : ((numerator * tenTo places / denominator : Nat) : ℚ) ≤ _ := Nat.cast_div_le
    rw [whole, Nat.cast_mul, cast_tenTo, mul_div_right_comm] at floor
    exact floor
  have most : (numerator : ℚ) / denominator * 10 ^ places < scaled + 1 := by
    have next := Nat.lt_mul_div_succ (numerator * tenTo places) positive
    rw [whole] at next
    rw [div_mul_eq_mul_div, div_lt_iff₀ divisor, ← cast_tenTo, mul_comm ((scaled : ℚ) + 1)]
    exact_mod_cast next
  constructor
  · have low : (10 : ℚ) ^ ((digitCount scaled : Int) - 1) ≤ scaled := by
      have digits := (tenPower_le_iff nonzero 0 (digitCount scaled - 1)).2 (by omega)
      rwa [zpow_zero, mul_one] at digits
    have split : top - 1 = (digitCount scaled : Int) - 1 + -(places : Int) := by omega
    rw [split, zpow_add₀ ten, zpow_neg, zpow_natCast, ← div_eq_mul_inv, div_le_iff₀ scale]
    exact low.trans least
  · have high : (scaled : ℚ) + 1 ≤ 10 ^ digitCount scaled := by exact_mod_cast lt_tenTo_digitCount scaled
    have split : top = (digitCount scaled : Int) + -(places : Int) := by omega
    rw [split, zpow_add₀ ten, zpow_neg, zpow_natCast, zpow_natCast, ← div_eq_mul_inv, lt_div_iff₀ scale]
    exact most.trans_le high

/-- The ceiling of a magnitude is the least power of ten above it. -/
theorem ceilingExponent_spec (positive : 0 < index) :
    (10 : ℚ) ^ (ceilingExponent index - 1) ≤ magnitude index ∧ magnitude index < 10 ^ ceilingExponent index := by
  have some : 0 < units index := strictMono_units positive
  have places : unitsInOne ≤ tenTo 400 := by decide +kernel
  exact digitCount_quotient 400 unitsInOne_pos (places.trans (Nat.le_mul_of_pos_left _ some)) rfl

/-- A number is close to a magnitude if they agree in 53 binary digits. -/
def Close (exact magnitude : ℚ) : Prop :=
  |exact - magnitude| * 2 ^ 53 ≤ magnitude

/-- A number is close to its nearest magnitude if that one is normal. -/
theorem close_of_nearest (normal : 2 ^ 52 ≤ index) (positive : 0 ≤ exact)
    (nearest : NearestIndex (exact * unitsInOne) index) : Close exact (magnitude index) := by
  have unit := units_cast_pos
  have near := nearest.near (mul_nonneg positive unit.le)
  have large : (2 ^ 52 * 2 ^ shift index : ℚ) ≤ units index := by exact_mod_cast units_normal normal
  have distance : |exact - magnitude index| * unitsInOne = |exact * unitsInOne - units index| := by
    rw [magnitude, abs_sub_mul unit, div_mul_cancel₀ _ (ne_of_gt unit)]
  rw [Close, ← mul_le_mul_iff_left₀ unit, mul_right_comm, distance, magnitude, div_mul_cancel₀ _ (ne_of_gt unit)]
  calc |exact * unitsInOne - units index| * 2 ^ 53 ≤ 2 ^ shift index / 2 * 2 ^ 53 :=
        mul_le_mul_of_nonneg_right near (by norm_num)
    _ = 2 ^ 52 * 2 ^ shift index := by ring
    _ ≤ units index := large

/-- Two numbers on a grid of fifteen digits are not close to one magnitude. -/
theorem eq_of_close {first second : Nat} (grid : top - 15 ≤ exponent) (below : step < 10 ^ top)
    (firstClose : Close (first * 10 ^ exponent) step) (secondClose : Close (second * 10 ^ exponent) step) :
    first = second := by
  have ten : (10 : ℚ) ≠ 0 := by norm_num
  have unit : (0 : ℚ) < 10 ^ exponent := by positivity
  have coarse : (10 : ℚ) ^ top ≤ 10 ^ 15 * 10 ^ exponent := by
    have split : top = 15 + (top - 15) := by omega
    rw [split, zpow_add₀ ten]
    exact mul_le_mul_of_nonneg_left (zpow_le_zpow_right₀ (by norm_num) grid) (by positivity)
  have apart : |(first : ℚ) - second| * 10 ^ exponent ≤
      |first * 10 ^ exponent - step| + |second * 10 ^ exponent - step| := by
    rw [abs_sub_mul unit, abs_sub_comm ((second : ℚ) * 10 ^ exponent)]
    exact abs_sub_le _ _ _
  have close : |(first : ℚ) - second| < 1 := by
    rw [← mul_lt_mul_iff_left₀ unit, one_mul]
    unfold Close at firstClose secondClose
    linarith
  have whole : |(first : Int) - second| < 1 := by exact_mod_cast close
  have same := Int.abs_lt_one_iff.1 whole
  omega

/-- A number with fifteen digits lies on the grid of fifteen digits below a close magnitude. -/
theorem exponent_of_close (short : digits < 10 ^ 15) (above : 10 ^ (top - 1) ≤ step)
    (close : Close (digits * 10 ^ exponent) step) : top - 15 ≤ exponent := by
  by_contra fine
  have ten : (10 : ℚ) ≠ 0 := by norm_num
  have unit : (0 : ℚ) < 10 ^ (top - 16) := by positivity
  have large : 10 ^ 15 * 10 ^ (top - 16) ≤ step := by
    have split : top - 1 = 15 + (top - 16) := by omega
    rw [split, zpow_add₀ ten] at above
    exact above
  have most : (digits : ℚ) ≤ 10 ^ 15 - 1 := by
    have next : (digits : ℚ) + 1 ≤ 10 ^ 15 := by exact_mod_cast short
    linarith
  have small : (digits : ℚ) * 10 ^ exponent ≤ (10 ^ 15 - 1) * 10 ^ (top - 16) :=
    mul_le_mul most (zpow_le_zpow_right₀ (by norm_num) (by omega)) (by positivity) (by norm_num)
  -- The magnitude is a power of ten or more, and the number is a whole step below that.
  have distance := neg_abs_le (digits * 10 ^ exponent - step)
  unfold Close at close
  linarith

/-- A number on a grid is on all finer ones. -/
theorem refined (number : Nat) (finer : power ≤ exponent) :
    (number : ℚ) * 10 ^ exponent = (number * 10 ^ (exponent - power).toNat : Nat) * 10 ^ power := by
  have split : exponent = (exponent - power).toNat + power := by omega
  rw [Nat.cast_mul, Nat.cast_pow, Nat.cast_ofNat, mul_assoc, ← zpow_natCast, ← zpow_add₀ (by norm_num), ← split]

/-- The search ends with the number, which is the only candidate on any grid of up to fifteen digits. -/
theorem value_search (inside : index < magnitudeCount) (normal : 2 ^ 52 ≤ index)
    (nearest : NearestIndex (exact * unitsInOne) index) (same : exact = digits * 10 ^ exponent)
    (short : digits < 10 ^ 15) (fuel : Nat) (few : count ≤ 15) (enough : 15 < count + fuel) :
    (search index (ceilingExponent index) fuel count).value = exact := by
  have positive : 0 ≤ exact := by
    rw [same]
    positivity
  obtain ⟨above, below⟩ := ceilingExponent_spec (Nat.lt_of_lt_of_le (by decide) normal : 0 < index)
  have close := close_of_nearest normal positive nearest
  generalize ceilingExponent index = top at *
  rw [same] at close
  have grid := exponent_of_close short above close
  rw [refined digits grid] at same close
  induction fuel generalizing count with
  | zero => omega
  | succ fuel inductionHypothesis =>
      have spec := neighbour_spec (top - count) inside
      rw [search]
      cases found : neighbour index (top - count) with
      | some candidate =>
          rw [found] at spec
          have candidateClose := close_of_nearest normal (by positivity) spec
          have finer : top - 15 ≤ top - count := by omega
          rw [refined candidate finer] at candidateClose
          have equal := eq_of_close le_rfl below candidateClose close
          rw [value, same, refined candidate finer, equal]
      | none =>
          rw [found] at spec
          rcases Nat.lt_or_ge count 15 with more | last
          · exact inductionHypothesis (by omega) (by omega)
          · obtain rfl : count = 15 := by omega
            refine absurd (same ▸ nearest) (spec _ ?_)
            have split : top = 15 + (top - 15) := by omega
            rw [split, zpow_add₀ (by norm_num)] at below
            unfold Close at close
            push_cast at close ⊢
            have unit : (0 : ℚ) < 10 ^ (top - 15) := by positivity
            linarith

/-- Fifteen digits are found again in the shortest decimal. -/
theorem value_shortest (inside : index < magnitudeCount) (normal : 2 ^ 52 ≤ index)
    (nearest : NearestIndex (exact * unitsInOne) index) (same : exact = digits * 10 ^ exponent)
    (short : digits < 10 ^ 15) : (shortest index).value = exact := by
  rw [shortest, value_stripZeros]
  exact value_search inside normal nearest same short 17 (by decide) (by decide)

end ParserAlgebra.Scientific
