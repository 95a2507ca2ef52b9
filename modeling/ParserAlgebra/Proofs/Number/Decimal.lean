import ParserAlgebra.Number.Decimal
import ParserAlgebra.Proofs.Number.Rounding

namespace ParserAlgebra

/-- The digits of a number are counted by the powers of ten below it. -/
theorem digitCount_le_iff {number count : Nat} : digitCount number ≤ count ↔ number < 10 ^ count := by
  constructor
  · intro few
    exact Nat.lt_of_lt_of_le (lt_tenTo_digitCount number) (Nat.pow_le_pow_right (by decide) few)
  · intro small
    by_contra more
    have positive : number ≠ 0 := by
      rintro rfl
      exact more (Nat.zero_le _)
    have large : 10 ^ (count + 1) ≤ 10 ^ digitCount number := Nat.pow_le_pow_right (by decide) (by omega)
    have digits : 10 ^ digitCount number ≤ 10 * number := tenTo_digitCount_le number positive
    rw [Nat.pow_succ] at large
    omega

theorem digitCount_pos {number : Nat} (positive : number ≠ 0) : 0 < digitCount number := by
  by_contra none
  have zero := digitCount_le_iff.1 (Nat.le_of_not_lt none)
  omega

/-- A positive number is written with its digits. -/
theorem length_ofNat_eq {number : Nat} (positive : number ≠ 0) :
    (Text.ofNat number).length = digitCount number := by
  have bounds {count : Nat} (some : 0 < count) :
      (Text.ofNat number).length ≤ count ↔ digitCount number ≤ count := by
    rw [Text.ofNat, List.length_map, Nat.length_toDigits_le_iff (by decide) some, digitCount_le_iff]
  have written : 0 < (Text.ofNat number).length := by
    rw [Text.ofNat, List.length_map]
    exact Nat.length_toDigits_pos
  exact Nat.le_antisymm ((bounds (digitCount_pos positive)).2 le_rfl) ((bounds written).1 le_rfl)

/-- A scaled number reaches a power of ten if its leading digit stands at that power or above. -/
theorem tenPower_le_iff {number : Nat} (positive : number ≠ 0) (exponent power : Int) :
    (10 : ℚ) ^ power ≤ number * 10 ^ exponent ↔ power < exponent + digitCount number := by
  have ten : (10 : ℚ) ≠ 0 := by norm_num
  have some := digitCount_pos positive
  rcases Int.lt_or_le power exponent with low | high
  · refine iff_of_true ?_ (by omega)
    calc (10 : ℚ) ^ power ≤ 1 * 10 ^ exponent := by
          rw [one_mul]
          exact zpow_le_zpow_right₀ (by norm_num) low.le
      _ ≤ number * 10 ^ exponent :=
          mul_le_mul_of_nonneg_right (by exact_mod_cast Nat.pos_of_ne_zero positive) (by positivity)
  · obtain ⟨places, rfl⟩ := Int.le.dest high
    rw [zpow_add₀ ten, mul_comm, mul_le_mul_iff_of_pos_right (by positivity), zpow_natCast]
    have count : digitCount number ≤ places ↔ number < 10 ^ places := digitCount_le_iff
    constructor
    · intro reached
      by_contra few
      have small := count.1 (by omega)
      exact absurd reached (not_le.2 (by exact_mod_cast small))
    · intro many
      by_contra small
      have few := count.2 (by exact_mod_cast not_le.1 small)
      omega

namespace Decimal

/-- This function gives the exact value of a finite decimal. -/
def value : Decimal → ℚ
  | finite negative coefficient exponent =>
      if negative then -(coefficient * 10 ^ exponent) else coefficient * 10 ^ exponent
  | infinite _ => 0

/-- A decimal denotes an exact number if it is finite and has this value. -/
def Denotes (decimal : Decimal) (exact : ℚ) : Prop :=
  ∃ negative coefficient exponent, decimal = finite negative coefficient exponent ∧ decimal.value = exact

variable {negative : Bool} {coefficient : Nat} {exponent : Int} {decimal : Decimal} {fault : Fault}

/-- The power of ten of the last digit that the precision and the smallest exponent leave. -/
def lastPlace (coefficient : Nat) (exponent : Int) : Int :=
  max (exponent + digitCount coefficient - precision) smallestExponent

/-- The number of digits behind the last place. -/
def excess (coefficient : Nat) (exponent : Int) : Nat :=
  (lastPlace coefficient exponent - exponent).toNat

/-- The multiple of the last place that is nearest to a number. -/
def nearestMultiple (coefficient : Nat) (exponent : Int) : ℚ :=
  roundQuotient coefficient (tenTo (excess coefficient exponent)) * 10 ^ (exponent + excess coefficient exponent)

theorem roundQuotient_excess_le (coefficient : Nat) (exponent : Int) :
    roundQuotient coefficient (tenTo (excess coefficient exponent)) ≤ 10 ^ precision := by
  have positive := tenTo_pos (excess coefficient exponent)
  apply (rounds_roundQuotient _ positive).le_of_ge
  rw [div_le_iff₀ (by exact_mod_cast positive)]
  have enough : digitCount coefficient ≤ precision + excess coefficient exponent := by
    unfold excess lastPlace
    omega
  have bound : coefficient < 10 ^ (precision + excess coefficient exponent) := digitCount_le_iff.1 enough
  rw [Nat.pow_add] at bound
  exact_mod_cast bound.le

theorem lastPlace_eq (short : exponent ≤ lastPlace coefficient exponent) :
    lastPlace coefficient exponent = exponent + excess coefficient exponent := by
  unfold excess
  omega

/-- A number without digits behind the last place is kept. -/
theorem nearestMultiple_of_short (short : ¬ exponent < lastPlace coefficient exponent) :
    nearestMultiple coefficient exponent = coefficient * 10 ^ exponent := by
  have none : excess coefficient exponent = 0 := by
    unfold excess
    omega
  have one : tenTo 0 = 1 := rfl
  have single : roundQuotient coefficient 1 = coefficient :=
    (rounds_roundQuotient _ Nat.one_pos).eq_of_eq (by simp)
  rw [nearestMultiple, none, one, single, Int.ofNat_zero, add_zero]

/-- Nothing is left of a number only if its last place is the smallest one. -/
theorem lastPlace_of_zero (short : exponent < lastPlace coefficient exponent)
    (nothing : roundQuotient coefficient (tenTo (excess coefficient exponent)) = 0) :
    lastPlace coefficient exponent = smallestExponent := by
  by_contra larger
  have positive := tenTo_pos (excess coefficient exponent)
  have few : excess coefficient exponent < digitCount coefficient := by
    unfold excess lastPlace precision at *
    omega
  have reached : 10 ^ excess coefficient exponent ≤ coefficient := by
    by_contra small
    have less := digitCount_le_iff.2 (Nat.lt_of_not_le small)
    omega
  have one : 1 ≤ roundQuotient coefficient (tenTo (excess coefficient exponent)) := by
    apply (rounds_roundQuotient _ positive).le_of_le
    rw [le_div_iff₀ (by exact_mod_cast positive), Nat.cast_one, one_mul]
    exact_mod_cast reached
  omega

/-- A number that is not zero becomes the nearest multiple of its last place, and a fault past the largest
exponent. -/
theorem round_finite (negative : Bool) (nonzero : coefficient ≠ 0) (exponent : Int) :
    ∃ (rounded : Nat) (last : Int), (rounded : ℚ) * 10 ^ last = nearestMultiple coefficient exponent ∧
      rounded < 10 ^ precision ∧ smallestExponent ≤ last ∧ (rounded = 0 → last = smallestExponent) ∧
      round (finite negative coefficient exponent) =
        if largestExponent < last + digitCount rounded - 1 then .error .decimalOverflow
        else .ok (finite negative rounded last) := by
  have ten : (10 : ℚ) ≠ 0 := by norm_num
  have least : smallestExponent ≤ lastPlace coefficient exponent := le_max_right _ _
  have atMost := roundQuotient_excess_le coefficient exponent
  by_cases short : exponent < lastPlace coefficient exponent
  · have place := lastPlace_eq short.le
    by_cases carry : roundQuotient coefficient (tenTo (excess coefficient exponent)) = tenTo precision
    · -- The digits carry over to one digit more, of which the last is dropped.
      refine ⟨tenTo (precision - 1), lastPlace coefficient exponent + 1, ?_, by decide, by omega, ?_, ?_⟩
      · rw [nearestMultiple, carry, ← place, zpow_add_one₀ ten, cast_tenTo, cast_tenTo, precision]
        ring
      · exact fun nothing => absurd nothing (by decide)
      · simp only [lastPlace, excess] at short carry ⊢
        simp only [round, nonzero, short, carry, if_true, if_false]
        rfl
    · refine ⟨_, lastPlace coefficient exponent, ?_, lt_of_le_of_ne atMost carry, least, ?_, ?_⟩
      · rw [nearestMultiple, ← place]
      · exact fun nothing => lastPlace_of_zero short nothing
      · simp only [lastPlace, excess] at short carry ⊢
        simp only [round, nonzero, short, carry, if_true, if_false]
        rfl
  · have digits : digitCount coefficient ≤ precision := by
      unfold lastPlace at short
      omega
    refine ⟨coefficient, exponent, (nearestMultiple_of_short short).symm, digitCount_le_iff.1 digits, by omega,
      fun nothing => absurd nothing nonzero, ?_⟩
    simp only [lastPlace] at short
    simp only [round, nonzero, short, if_false]

theorem round_zero (negative : Bool) (exponent : Int) :
    round (finite negative 0 exponent) =
      .ok (finite negative 0 (min (max exponent smallestExponent) largestExponent)) := by
  rw [round, if_pos rfl]

/-- The last number that decimals can hold is passed by the rounded number. -/
theorem round_eq_error_iff (negative : Bool) (nonzero : coefficient ≠ 0) :
    round (finite negative coefficient exponent) = .error fault ↔
      fault = .decimalOverflow ∧ 10 ^ (largestExponent + 1) ≤ nearestMultiple coefficient exponent := by
  obtain ⟨rounded, last, exact, -, -, tiny, result⟩ := round_finite negative nonzero exponent
  rw [result, ← exact]
  have passed : 10 ^ (largestExponent + 1) ≤ (rounded : ℚ) * 10 ^ last ↔
      largestExponent < last + digitCount rounded - 1 := by
    by_cases nothing : rounded = 0
    · have zero : digitCount 0 = 0 := rfl
      have positive : (0 : ℚ) < 10 ^ (largestExponent + 1) := by positivity
      rw [tiny nothing, nothing, zero, Nat.cast_zero, zero_mul]
      exact iff_of_false (not_le.2 positive) (by decide)
    · rw [tenPower_le_iff nothing]
      omega
  rw [passed]
  split
  · rename_i large
    simp [large, eq_comm]
  · rename_i small
    simp [small]

/-- A rounded number keeps its sign. -/
theorem round_eq_ok (nonzero : coefficient ≠ 0)
    (kept : round (finite negative coefficient exponent) = .ok decimal) :
    ∃ (rounded : Nat) (last : Int), decimal = finite negative rounded last ∧
      (rounded : ℚ) * 10 ^ last = nearestMultiple coefficient exponent ∧ rounded < 10 ^ precision ∧
      smallestExponent ≤ last := by
  obtain ⟨rounded, last, exact, digits, least, -, result⟩ := round_finite negative nonzero exponent
  rw [result] at kept
  split at kept <;> cases kept
  exact ⟨rounded, last, rfl, exact, digits, least⟩

/-- A number fits if it has no more digits than the precision, and none of them stands too far behind or
before the point. -/
def Fits (exact : ℚ) : Prop :=
  ∃ (coefficient : Nat) (exponent : Int), |exact| = coefficient * 10 ^ exponent ∧
    coefficient < 10 ^ precision ∧ smallestExponent ≤ exponent ∧ |exact| < 10 ^ (largestExponent + 1)

theorem abs_value (negative : Bool) (coefficient : Nat) (exponent : Int) :
    |(finite negative coefficient exponent).value| = coefficient * 10 ^ exponent := by
  have positive : (0 : ℚ) ≤ coefficient * 10 ^ exponent := by positivity
  cases negative with
  | false => simp only [value, Bool.false_eq_true, if_false, abs_of_nonneg positive]
  | true => simp only [value, if_true, abs_neg, abs_of_nonneg positive]

/-- Few digits around the point always fit. -/
theorem fits_of_short {exact : ℚ} (coefficient : Nat) (exponent : Int) (short : coefficient < 10 ^ precision)
    (least : smallestExponent ≤ exponent) (inside : exponent + precision ≤ largestExponent + 1)
    (same : |exact| = coefficient * 10 ^ exponent) : Fits exact := by
  refine ⟨coefficient, exponent, same, short, least, ?_⟩
  rw [same]
  calc (coefficient : ℚ) * 10 ^ exponent < 10 ^ precision * 10 ^ exponent :=
        mul_lt_mul_of_pos_right (by exact_mod_cast short) (by positivity)
    _ = 10 ^ (exponent + precision) := by rw [zpow_add₀ (by norm_num), mul_comm, zpow_natCast]
    _ ≤ 10 ^ (largestExponent + 1) := zpow_le_zpow_right₀ (by norm_num) inside

theorem fits_zero : Fits 0 :=
  fits_of_short 0 0 (by decide) (by decide) (by decide) (by simp)

/-- Numbers of one sign are equal if their magnitudes are. -/
theorem value_eq_iff {other : Nat} {place : Int} :
    (finite negative other place).value = (finite negative coefficient exponent).value ↔
      (other : ℚ) * 10 ^ place = coefficient * 10 ^ exponent := by
  cases negative <;> simp [value]

/-- A number that fits is a multiple of its last place. -/
theorem nearestMultiple_of_fits {other : Nat} {place : Int} (nonzero : coefficient ≠ 0)
    (same : (coefficient : ℚ) * 10 ^ exponent = other * 10 ^ place) (digits : other < 10 ^ precision)
    (least : smallestExponent ≤ place) :
    nearestMultiple coefficient exponent = coefficient * 10 ^ exponent := by
  have ten : (10 : ℚ) ≠ 0 := by norm_num
  have positive := tenTo_pos (excess coefficient exponent)
  by_cases short : exponent < lastPlace coefficient exponent
  · have here := lastPlace_eq short.le
    have otherNonzero : other ≠ 0 := by
      rintro rfl
      rw [Nat.cast_zero, zero_mul] at same
      have positive : (0 : ℚ) < coefficient * 10 ^ exponent := by positivity
      linarith
    have inside : lastPlace coefficient exponent ≤ place := by
      by_contra outside
      -- The number would have too many digits in front of the place.
      have many : (10 : ℚ) ^ (place + precision) ≤ coefficient * 10 ^ exponent := by
        rw [tenPower_le_iff nonzero]
        unfold lastPlace at outside
        omega
      rw [same, tenPower_le_iff otherNonzero] at many
      have few := digitCount_le_iff.2 digits
      omega
    obtain ⟨places, reached⟩ := Int.le.dest inside
    have whole : (coefficient : ℚ) / (tenTo (excess coefficient exponent) : Nat) = (other * 10 ^ places : Nat) := by
      rw [div_eq_iff (by exact_mod_cast positive.ne'), cast_tenTo]
      apply mul_right_cancel₀ (zpow_ne_zero exponent ten)
      rw [same, ← reached, here, zpow_add₀ ten, zpow_add₀ ten, zpow_natCast, zpow_natCast]
      push_cast
      ring
    rw [nearestMultiple, (rounds_roundQuotient _ positive).eq_of_eq whole, same, ← reached, here,
      zpow_add₀ ten _ (places : Int), zpow_natCast]
    push_cast
    ring
  · exact nearestMultiple_of_short short

/-- Rounding keeps exactly the numbers that fit. -/
theorem round_denotes_iff :
    (∃ rounded, round (finite negative coefficient exponent) = .ok rounded ∧
      rounded.Denotes (finite negative coefficient exponent).value) ↔
      Fits (finite negative coefficient exponent).value := by
  by_cases zero : coefficient = 0
  · subst zero
    have zero : (finite negative 0 exponent).value = 0 := by simp [value]
    rw [zero]
    exact iff_of_true ⟨_, round_zero negative exponent, _, _, _, rfl, by simp [value]⟩ fits_zero
  · constructor
    · rintro ⟨decimal, kept, -, -, -, -, same⟩
      obtain ⟨rounded, last, rfl, exact, digits, least⟩ := round_eq_ok zero kept
      refine ⟨rounded, last, ?_, digits, least, ?_⟩
      · rw [← same, abs_value]
      · rw [← same, abs_value, exact, ← not_le]
        intro large
        have raised := (round_eq_error_iff negative zero).2 ⟨rfl, large⟩
        rw [raised] at kept
        cases kept
    · rintro ⟨other, place, same, digits, least, small⟩
      rw [abs_value] at same small
      have whole := nearestMultiple_of_fits zero same digits least
      cases result : round (finite negative coefficient exponent) with
      | error fault =>
          have large := ((round_eq_error_iff negative zero).1 result).2
          rw [whole] at large
          exact absurd small (not_lt.2 large)
      | ok decimal =>
          obtain ⟨rounded, last, rfl, exact, -, -⟩ := round_eq_ok zero result
          exact ⟨_, rfl, _, _, _, rfl, value_eq_iff.2 (exact.trans whole)⟩

theorem signedMultiple_value {power : Int} (below : power ≤ exponent) :
    (signedMultiple negative coefficient exponent power : ℚ) * 10 ^ power =
      (finite negative coefficient exponent).value := by
  have scaled : (coefficient * tenTo (exponent - power).toNat : Nat) * (10 : ℚ) ^ power =
      coefficient * 10 ^ exponent := by
    rw [Nat.cast_mul, cast_tenTo, ← zpow_natCast, Int.toNat_of_nonneg (by omega), mul_assoc,
      ← zpow_add₀ (by norm_num), sub_add_cancel]
  cases negative with
  | false =>
      simp only [signedMultiple, value, Bool.false_eq_true, if_false, Int.cast_natCast]
      exact scaled
  | true =>
      simp only [signedMultiple, value, if_true, Int.cast_neg, Int.cast_natCast, neg_mul]
      rw [scaled]

/-- A signed multiple of a power of ten is written with its sign in front. -/
theorem value_natAbs {sum : Int} (signed : sum ≠ 0 → negative = decide (sum < 0)) :
    (finite negative sum.natAbs exponent).value = sum * 10 ^ exponent := by
  rcases lt_trichotomy sum 0 with below | rfl | above
  · have minus : negative = true := by rw [signed (by omega), decide_eq_true below]
    have magnitude : ((sum.natAbs : Nat) : ℚ) = -sum := by
      rw [Nat.cast_natAbs, abs_of_neg below, Int.cast_neg]
    rw [value, if_pos minus, magnitude, neg_mul, neg_neg]
  · simp [value]
  · have plus : ¬ negative = true := by
      rw [signed (by omega), decide_eq_true_eq]
      omega
    have magnitude : ((sum.natAbs : Nat) : ℚ) = sum := by
      rw [Nat.cast_natAbs, abs_of_pos above]
    rw [value, if_neg plus, magnitude]

theorem value_ofInt (number : Int) : (ofInt number).value = number := by
  rw [ofInt, value_natAbs fun _ => rfl, zpow_zero, mul_one]

/-- The sum of finite decimals is exact before it is rounded. -/
theorem add_exact {left right : Decimal} {first second : ℚ} (leftDenotes : left.Denotes first)
    (rightDenotes : right.Denotes second) :
    ∃ negative coefficient exponent, left.add right = round (finite negative coefficient exponent) ∧
      (finite negative coefficient exponent).value = first + second := by
  obtain ⟨leftSign, leftDigits, leftExponent, rfl, rfl⟩ := leftDenotes
  obtain ⟨rightSign, rightDigits, rightExponent, rfl, rfl⟩ := rightDenotes
  refine ⟨_, _, _, rfl, ?_⟩
  rw [value_natAbs fun nonzero => if_neg nonzero, Int.cast_add, add_mul,
    signedMultiple_value (min_le_left _ _), signedMultiple_value (min_le_right _ _)]

/-- This function rounds a coefficient to the precision and fills it up with zeros. -/
def limitedCoefficient (coefficient : Nat) : Nat :=
  roundQuotient coefficient (tenTo (digitCount coefficient - precision)) * tenTo (digitCount coefficient - precision)

/-- This function rounds a number to the precision, whatever its exponent is. -/
def limited : Decimal → Decimal
  | finite negative coefficient exponent => finite negative (limitedCoefficient coefficient) exponent
  | infinite negative => infinite negative

/-- Rounding to the precision does not pass the powers of ten around a number. -/
theorem limitedCoefficient_bounds (nonzero : coefficient ≠ 0) :
    10 ^ (digitCount coefficient - 1) ≤ limitedCoefficient coefficient ∧
      limitedCoefficient coefficient ≤ 10 ^ digitCount coefficient := by
  have some := digitCount_pos nonzero
  have low : 10 ^ (digitCount coefficient - 1) ≤ coefficient := by
    by_contra small
    have few := digitCount_le_iff.2 (Nat.lt_of_not_le small)
    omega
  have high : coefficient < 10 ^ digitCount coefficient := lt_tenTo_digitCount coefficient
  unfold limitedCoefficient precision
  generalize cut : digitCount coefficient - 28 = places
  have positive := tenTo_pos places
  have positiveCast : (0 : ℚ) < (tenTo places : Nat) := by exact_mod_cast positive
  have rounds := rounds_roundQuotient coefficient positive
  constructor
  · have split : digitCount coefficient - 1 = digitCount coefficient - 1 - places + places := by omega
    rw [split, Nat.pow_add]
    apply Nat.mul_le_mul_right
    apply rounds.le_of_le
    rw [le_div_iff₀ positiveCast]
    rw [split, Nat.pow_add] at low
    exact_mod_cast low
  · have split : digitCount coefficient = digitCount coefficient - places + places := by omega
    rw [split, Nat.pow_add]
    apply Nat.mul_le_mul_right
    apply rounds.le_of_ge
    rw [div_le_iff₀ positiveCast]
    rw [split, Nat.pow_add] at high
    exact_mod_cast high.le

/-- The smallest exponent does not matter for a number whose last place lies above it. -/
theorem nearestMultiple_eq_limited (inside : smallestExponent ≤ exponent + digitCount coefficient - precision) :
    nearestMultiple coefficient exponent = limitedCoefficient coefficient * 10 ^ exponent := by
  have same : excess coefficient exponent = digitCount coefficient - precision := by
    unfold excess lastPlace
    omega
  rw [nearestMultiple, limitedCoefficient, same, zpow_add₀ (by norm_num), zpow_natCast, Nat.cast_mul,
    cast_tenTo (digitCount coefficient - precision)]
  ring

/-- Numbers above the largest exponent stay there when they are rounded. -/
theorem round_overflow (negative : Bool) (large : (10 : ℚ) ^ (largestExponent + 1) ≤ coefficient * 10 ^ exponent) :
    round (finite negative coefficient exponent) = .error .decimalOverflow := by
  have nonzero : coefficient ≠ 0 := by
    rintro rfl
    rw [Nat.cast_zero, zero_mul] at large
    exact absurd large (not_le.2 (by positivity))
  have far := (tenPower_le_iff nonzero exponent _).1 large
  have inside : smallestExponent ≤ exponent + digitCount coefficient - precision := by
    unfold smallestExponent precision
    unfold largestExponent at far
    omega
  have low := (limitedCoefficient_bounds nonzero).1
  have positive : 0 < 10 ^ (digitCount coefficient - 1) := Nat.pow_pos (by decide)
  have longer : ¬ digitCount (limitedCoefficient coefficient) ≤ digitCount coefficient - 1 := by
    rw [digitCount_le_iff]
    omega
  rw [round_eq_error_iff negative nonzero, nearestMultiple_eq_limited inside, tenPower_le_iff (by omega)]
  exact ⟨rfl, by omega⟩

/-- A number has no more significant digits than a count says. -/
def HasDigits (count : Nat) (exact : ℚ) : Prop :=
  ∃ (coefficient : Nat) (exponent : Int), |exact| = coefficient * 10 ^ exponent ∧ coefficient < 10 ^ count

/-- Rounding to the precision keeps a number with no more digits. -/
theorem limitedCoefficient_of_short {other : Nat} {place : Int} (nonzero : coefficient ≠ 0)
    (same : (coefficient : ℚ) * 10 ^ exponent = other * 10 ^ place) (digits : other < 10 ^ precision) :
    limitedCoefficient coefficient = coefficient := by
  have ten : (10 : ℚ) ≠ 0 := by norm_num
  -- Moved far enough up, the number does not reach the smallest exponent.
  obtain ⟨places, inside, least⟩ : ∃ places : Int,
      smallestExponent ≤ exponent + places + digitCount coefficient - precision ∧
        smallestExponent ≤ place + places := by
    refine ⟨max (-exponent) (-place), ?_, ?_⟩ <;> simp only [smallestExponent, precision] <;> omega
  have moved : (coefficient : ℚ) * 10 ^ (exponent + places) = other * 10 ^ (place + places) := by
    rw [zpow_add₀ ten, zpow_add₀ ten, ← mul_assoc, ← mul_assoc, same]
  have kept := nearestMultiple_of_fits nonzero moved digits least
  rw [nearestMultiple_eq_limited inside] at kept
  exact_mod_cast mul_right_cancel₀ (zpow_ne_zero _ ten) kept

theorem HasDigits.mono {first second : Nat} {exact : ℚ} (few : HasDigits first exact) (more : first ≤ second) :
    HasDigits second exact := by
  obtain ⟨digits, place, same, short⟩ := few
  exact ⟨digits, place, same, short.trans_le (Nat.pow_le_pow_right (by decide) more)⟩

theorem Denotes.limited {exact : ℚ} (denotes : decimal.Denotes exact) (short : HasDigits precision exact) :
    decimal.limited.Denotes exact := by
  obtain ⟨negative, coefficient, exponent, rfl, rfl⟩ := denotes
  refine ⟨negative, limitedCoefficient coefficient, exponent, rfl, ?_⟩
  rw [Decimal.limited, value_eq_iff]
  by_cases zero : coefficient = 0
  · have nothing : limitedCoefficient 0 = 0 := rfl
    rw [zero, nothing]
  · obtain ⟨digits, place, same, short⟩ := short
    rw [abs_value] at same
    rw [limitedCoefficient_of_short zero same short]

/-- All other numbers are tiny. -/
theorem nearestMultiple_tiny (nonzero : coefficient ≠ 0)
    (outside : exponent + digitCount coefficient - precision < smallestExponent) :
    nearestMultiple coefficient exponent ≤ 10 ^ (smallestExponent + precision) ∧
      (limitedCoefficient coefficient : ℚ) * 10 ^ exponent ≤ 10 ^ (smallestExponent + precision) := by
  have ten : (10 : ℚ) ≠ 0 := by norm_num
  have scaled {number : Nat} (high : number ≤ 10 ^ digitCount coefficient) :
      (number : ℚ) * 10 ^ exponent ≤ 10 ^ (smallestExponent + precision) := by
    calc (number : ℚ) * 10 ^ exponent ≤ 10 ^ digitCount coefficient * 10 ^ exponent :=
          mul_le_mul_of_nonneg_right (by exact_mod_cast high) (by positivity)
      _ = 10 ^ (digitCount coefficient + exponent) := by rw [← zpow_natCast, ← zpow_add₀ ten]
      _ ≤ 10 ^ (smallestExponent + precision) := zpow_le_zpow_right₀ (by norm_num) (by omega)
  refine ⟨?_, scaled (limitedCoefficient_bounds nonzero).2⟩
  by_cases short : exponent < lastPlace coefficient exponent
  · have place : exponent + excess coefficient exponent = smallestExponent := by
      rw [← lastPlace_eq short.le]
      unfold lastPlace
      omega
    rw [nearestMultiple, place, zpow_add₀ ten, mul_comm, zpow_natCast]
    exact mul_le_mul_of_nonneg_left (by exact_mod_cast roundQuotient_excess_le coefficient exponent) (by positivity)
  · rw [nearestMultiple_of_short short]
    exact scaled (lt_tenTo_digitCount coefficient).le

/-- This function gives the power of ten of the leading digit. -/
def leadingExponent : Decimal → Int
  | .finite _ coefficient exponent => exponent + (Text.ofNat coefficient).length - 1
  | .infinite _ => 0

/-- A scaled number is too large if its leading digit, rounded to the precision, stands too far in front of
the point. -/
theorem nearestMultiple_large_iff (negative : Bool) (nonzero : coefficient ≠ 0) (power : Int) :
    10 ^ (largestExponent + 1) ≤ nearestMultiple coefficient (exponent + power) ↔
      largestExponent < (limited (finite negative coefficient exponent)).leadingExponent + power := by
  have kept : limitedCoefficient coefficient ≠ 0 := by
    have low := (limitedCoefficient_bounds nonzero).1
    have positive : 0 < 10 ^ (digitCount coefficient - 1) := Nat.pow_pos (by decide)
    omega
  have leading : largestExponent < (limited (finite negative coefficient exponent)).leadingExponent + power ↔
      10 ^ (largestExponent + 1) ≤ (limitedCoefficient coefficient : ℚ) * 10 ^ (exponent + power) := by
    rw [limited, leadingExponent, length_ofNat_eq kept, tenPower_le_iff kept]
    omega
  rw [leading]
  by_cases inside : smallestExponent ≤ exponent + power + digitCount coefficient - precision
  · rw [nearestMultiple_eq_limited inside]
  · obtain ⟨rounded, whole⟩ := nearestMultiple_tiny nonzero (Int.lt_of_not_ge inside)
    have far : (10 : ℚ) ^ (smallestExponent + precision) < 10 ^ (largestExponent + 1) :=
      zpow_lt_zpow_right₀ (by norm_num) (by decide)
    exact iff_of_false (not_le.2 (rounded.trans_lt far)) (not_le.2 (whole.trans_lt far))

/-- Scaling fails for powers that are too large, also of zero and infinity, and for numbers that become too
large. -/
theorem scale_eq_error_iff {power : Int} : decimal.scale power = .error fault ↔
    fault = .decimalInvalid ∧ largestScale < power.natAbs ∨
      fault = .decimalOverflow ∧ power.natAbs ≤ largestScale ∧ (∃ exact ≠ 0, decimal.Denotes exact) ∧
        largestExponent < decimal.limited.leadingExponent + power := by
  unfold scale
  split
  · rename_i large
    simp [large, Nat.not_le.2 large, eq_comm]
  · rename_i small
    have allowed : power.natAbs ≤ largestScale := Nat.le_of_not_lt small
    simp only [small, and_false, false_or, allowed, true_and]
    cases decimal with
    | infinite negative =>
        refine iff_of_false nofun ?_
        rintro ⟨-, ⟨exact, -, _, _, _, never, -⟩, -⟩
        cases never
    | finite negative coefficient exponent =>
        dsimp only
        by_cases zero : coefficient = 0
        · subst zero
          rw [round_zero]
          refine iff_of_false nofun ?_
          rintro ⟨-, ⟨exact, nonzero, _, _, _, -, same⟩, -⟩
          exact nonzero (by simp [← same, value])
        · have denotes : ∃ exact ≠ 0, (finite negative coefficient exponent).Denotes exact := by
            refine ⟨_, ?_, _, _, _, rfl, rfl⟩
            rw [← abs_ne_zero, abs_value]
            positivity
          rw [round_eq_error_iff negative zero, nearestMultiple_large_iff negative zero]
          simp only [denotes, true_and]

end Decimal

end ParserAlgebra
