import ParserAlgebra.Proofs.Number.Decimal
import ParserAlgebra.Proofs.Number.Nearest

namespace ParserAlgebra.Decimal

variable {negative : Bool} {coefficient : Nat} {exponent power : Int} {scaled : Decimal}

/-- A number below all places of a power of two is at most half a unit. -/
theorem mul_twoTo_le_half {exact : ℚ} {places : Nat} {power : Int} (small : exact ≤ 10 ^ power)
    (below : power + places ≤ -1) : exact * (twoTo places : Nat) ≤ 1 / 2 := by
  rw [cast_twoTo]
  calc exact * 2 ^ places
      ≤ 10 ^ power * 10 ^ places :=
        mul_le_mul small (pow_le_pow_left₀ (by norm_num) (by norm_num) places) (by positivity) (by positivity)
    _ = 10 ^ (power + places) := by rw [zpow_add₀ (by norm_num), zpow_natCast]
    _ ≤ 10 ^ (-1 : Int) := zpow_le_zpow_right₀ (by norm_num) below
    _ ≤ 1 / 2 := by norm_num

/-- Numbers that the smallest exponent cuts off are far below the smallest double. -/
theorem position_tiny {exact : ℚ} (tiny : exact ≤ 10 ^ (smallestExponent + precision)) :
    exact * Double.unitsInOne ≤ 1 / 2 := by
  rw [Double.unitsInOne_eq]
  exact mul_twoTo_le_half tiny (by decide)

/-- Where the smallest exponent matters, every number in question becomes zero. -/
theorem nearestIndex_limited (nonzero : coefficient ≠ 0) {index : Nat}
    (nearest : Double.NearestIndex (nearestMultiple coefficient exponent * Double.unitsInOne) index) :
    Double.NearestIndex (limitedCoefficient coefficient * 10 ^ exponent * Double.unitsInOne) index := by
  by_cases inside : smallestExponent ≤ exponent + digitCount coefficient - precision
  · rwa [nearestMultiple_eq_limited inside] at nearest
  · obtain ⟨rounded, whole⟩ := nearestMultiple_tiny nonzero (Int.lt_of_not_ge inside)
    have positive {exact : ℚ} (positive : 0 ≤ exact) : 0 ≤ exact * Double.unitsInOne :=
      mul_nonneg positive (Nat.cast_nonneg _)
    have multiple : 0 ≤ nearestMultiple coefficient exponent := by
      unfold nearestMultiple
      positivity
    have zero := (Double.nearestIndex_zero_iff (positive multiple)).2 (position_tiny rounded)
    obtain rfl := nearest.unique zero
    exact (Double.nearestIndex_zero_iff (positive (by positivity))).2 (position_tiny whole)

/-- A scaled decimal becomes the double nearest to the limited number times the power of ten, and keeps its sign. -/
theorem nearest_scale (kept : (finite negative coefficient exponent).scale power = .ok scaled) :
    Double.Nearest negative (limitedCoefficient coefficient * 10 ^ (exponent + power)) scaled.toDouble := by
  unfold scale at kept
  split at kept
  · cases kept
  dsimp only at kept
  by_cases zero : coefficient = 0
  · subst zero
    have nothing : limitedCoefficient 0 = 0 := rfl
    rw [round_zero] at kept
    cases kept
    have nearest := Double.ofDecimal_nearest negative 0 (min (max (exponent + power) smallestExponent) largestExponent)
    rw [Nat.cast_zero, zero_mul] at nearest
    rwa [nothing, Nat.cast_zero, zero_mul]
  · obtain ⟨rounded, last, rfl, exact, -, -⟩ := round_eq_ok zero kept
    obtain ⟨index, result, nearest⟩ := Double.nearest_iff.1 (Double.ofDecimal_nearest negative rounded last)
    rw [exact] at nearest
    exact Double.nearest_iff.2 ⟨index, result, nearestIndex_limited zero nearest⟩

end ParserAlgebra.Decimal
