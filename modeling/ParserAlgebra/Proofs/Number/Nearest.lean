import Mathlib.Data.Nat.Log
import Mathlib.Order.Monotone.Basic
import ParserAlgebra.Number.Double
import ParserAlgebra.Proofs.Number.Rounding

namespace ParserAlgebra.Double

variable {exact position : ℚ} {index other : Nat}

/-- A magnitude is its shift times the number of significands, and its significand. -/
theorem index_eq (index : Nat) : shift index * 2 ^ 52 + significand index = index := by
  have count : twoTo 52 = 2 ^ 52 := rfl
  unfold shift significand
  rw [count]
  split <;> omega

theorem significand_lt (index : Nat) : significand index < 2 ^ 53 := by
  have count : twoTo 52 = 2 ^ 52 := rfl
  unfold significand
  rw [count]
  split <;> omega

/-- A shifted significand is a normal one. -/
theorem le_significand (index : Nat) : shift index = 0 ∨ 2 ^ 52 ≤ significand index := by
  have count : twoTo 52 = 2 ^ 52 := rfl
  unfold shift significand
  rw [count]
  split <;> omega

theorem units_eq (index : Nat) : units index = significand index * 2 ^ shift index := rfl

/-- One significand past the last one of a shift is the first one of the next shift. -/
theorem units_shifted (shifted rounded : Nat) (inside : rounded ≤ 2 ^ 53)
    (normal : shifted = 0 ∨ 2 ^ 52 ≤ rounded) :
    units (shifted * 2 ^ 52 + rounded) = rounded * 2 ^ shifted := by
  have count : twoTo 52 = 2 ^ 52 := rfl
  rw [units_eq]
  unfold shift significand
  rw [count]
  rcases Nat.eq_or_lt_of_le inside with last | inside
  · -- The significand carries over to the next shift.
    have large : ¬ shifted * 2 ^ 52 + rounded < 2 ^ 52 := by omega
    have quotient : (shifted * 2 ^ 52 + rounded) / 2 ^ 52 - 1 = shifted + 1 := by omega
    have remainder : (shifted * 2 ^ 52 + rounded) % 2 ^ 52 = 0 := by omega
    rw [if_neg large, quotient, remainder, last, Nat.pow_succ]
    ring
  · rcases Nat.lt_or_ge rounded (2 ^ 52) with small | large
    · obtain rfl : shifted = 0 := by omega
      rw [if_pos (by omega)]
      have quotient : (0 * 2 ^ 52 + rounded) / 2 ^ 52 - 1 = 0 := by omega
      rw [quotient]
      ring
    · have beyond : ¬ shifted * 2 ^ 52 + rounded < 2 ^ 52 := by omega
      have quotient : (shifted * 2 ^ 52 + rounded) / 2 ^ 52 - 1 = shifted := by omega
      have remainder : 2 ^ 52 + (shifted * 2 ^ 52 + rounded) % 2 ^ 52 = rounded := by omega
      rw [if_neg beyond, quotient, remainder]

/-- The next magnitude is one unit of the last place away. -/
theorem units_succ (index : Nat) : units (index + 1) = units index + 2 ^ shift index := by
  have small := significand_lt index
  have normal := le_significand index
  have next := units_shifted (shift index) (significand index + 1) (by omega) (by omega)
  rw [← Nat.add_assoc, index_eq] at next
  rw [next, units_eq]
  ring

theorem strictMono_units : StrictMono units := by
  apply strictMono_nat_of_lt_succ
  intro index
  rw [units_succ]
  exact Nat.lt_add_of_pos_right (Nat.two_pow_pos _)

/-- A magnitude is the nearest one to a position, and the even one of two, both counted in smallest magnitudes. -/
structure NearestIndex (position : ℚ) (index : Nat) : Prop where
  nearest : ∀ other, |position - units index| ≤ |position - units other|
  even : ∀ other ≠ index, |position - units other| = |position - units index| → index % 2 = 0

/-- A magnitude below the position is not passed. -/
theorem NearestIndex.le_of_le (nearest : NearestIndex position index) (below : (units other : ℚ) ≤ position) :
    other ≤ index := by
  by_contra less
  have smaller : (units index : ℚ) < units other := by
    exact_mod_cast strictMono_units (Nat.lt_of_not_le less)
  have near := nearest.nearest other
  rw [abs_of_nonneg (by linarith), abs_of_nonneg (by linarith)] at near
  linarith

theorem NearestIndex.le_of_ge (nearest : NearestIndex position index) (above : position ≤ units other) :
    index ≤ other := by
  by_contra more
  have larger : (units other : ℚ) < units index := by
    exact_mod_cast strictMono_units (Nat.lt_of_not_le more)
  have near := nearest.nearest other
  rw [abs_of_nonpos (by linarith), abs_of_nonpos (by linarith)] at near
  linarith

/-- No two magnitudes are nearest to one position. -/
theorem NearestIndex.unique (first : NearestIndex position index) (second : NearestIndex position other) :
    index = other := by
  wlog less : index < other generalizing index other
  · by_contra different
    exact different (this second first (by omega)).symm
  have tie : |position - units other| = |position - units index| :=
    le_antisymm (second.nearest index) (first.nearest other)
  have evenFirst := first.even other (by omega) tie
  have evenSecond := second.even index (by omega) tie.symm
  -- Between two even magnitudes lies an odd one, which is nearer than both.
  have below : (units index : ℚ) < units (index + 1) := by exact_mod_cast strictMono_units (by omega)
  have above : (units (index + 1) : ℚ) < units other := by exact_mod_cast strictMono_units (by omega)
  have middle := first.nearest (index + 1)
  rcases abs_cases (position - units other) with ⟨first, _⟩ | ⟨first, _⟩ <;>
    rcases abs_cases (position - units index) with ⟨second, _⟩ | ⟨second, _⟩ <;>
    rcases abs_cases (position - units (index + 1)) with ⟨third, _⟩ | ⟨third, _⟩ <;> linarith

/-- The nearest magnitude is at most half a unit of its last place away. -/
theorem NearestIndex.near (nearest : NearestIndex position index) (positive : 0 ≤ position) :
    |position - units index| ≤ 2 ^ shift index / 2 := by
  have above := nearest.nearest (index + 1)
  rw [units_succ] at above
  push_cast at above
  have unit : (0 : ℚ) < 2 ^ shift index := by positivity
  have high : position - units index ≤ 2 ^ shift index / 2 := by
    rcases abs_cases (position - units index) with ⟨first, _⟩ | ⟨first, _⟩ <;>
      rcases abs_cases (position - (units index + 2 ^ shift index)) with ⟨second, _⟩ | ⟨second, _⟩ <;> linarith
  refine abs_le.2 ⟨?_, high⟩
  cases index with
  | zero =>
      have zero : units 0 = 0 := rfl
      rw [zero, Nat.cast_zero]
      linarith
  | succ index =>
      have below := nearest.nearest index
      rw [units_succ] at below ⊢
      push_cast at below ⊢
      have finer : shift index ≤ shift (index + 1) :=
        Nat.sub_le_sub_right (Nat.div_le_div_right (Nat.le_succ index)) 1
      have smaller : (2 : ℚ) ^ shift index ≤ 2 ^ shift (index + 1) := pow_le_pow_right₀ (by norm_num) finer
      have positive : (0 : ℚ) < 2 ^ shift index := by positivity
      rcases abs_cases (position - (units index + 2 ^ shift index)) with ⟨first, _⟩ | ⟨first, _⟩ <;>
        rcases abs_cases (position - units index) with ⟨second, _⟩ | ⟨second, _⟩ <;> linarith

/-- A normal magnitude has all its binary digits. -/
theorem units_normal (normal : 2 ^ 52 ≤ index) : 2 ^ 52 * 2 ^ shift index ≤ units index := by
  have large : 2 ^ 52 ≤ significand index := by
    rcases le_significand index with unshifted | large
    · have same := index_eq index
      rw [unshifted] at same
      omega
    · exact large
  rw [units_eq]
  exact Nat.mul_le_mul_right _ large

/-- Zero is the nearest magnitude up to half of the smallest positive one. -/
theorem nearestIndex_zero_iff (positive : 0 ≤ position) : NearestIndex position 0 ↔ position ≤ 1 / 2 := by
  have none : units 0 = 0 := rfl
  have one : units 1 = 1 := rfl
  constructor
  · intro nearest
    have first := nearest.nearest 1
    rw [none, one, Nat.cast_zero, sub_zero, abs_of_nonneg positive, Nat.cast_one] at first
    rcases abs_cases (position - 1) with ⟨distance, _⟩ | ⟨distance, _⟩ <;> linarith
  · intro small
    constructor
    · intro other
      rw [none, Nat.cast_zero, sub_zero, abs_of_nonneg positive]
      rcases Nat.eq_zero_or_pos other with zero | some
      · rw [zero, none, Nat.cast_zero, sub_zero]
        exact le_abs_self position
      · have far : (1 : ℚ) ≤ units other := by exact_mod_cast one ▸ strictMono_units.monotone some
        rw [abs_sub_comm]
        exact le_trans (by linarith) (le_abs_self _)
    · intro _ _ _
      rfl

/-- A magnitude is a multiple of the unit of a shift, or it has a smaller shift. -/
theorem multiple_or_below (shifted index : Nat) :
    (∃ multiple, units index = multiple * 2 ^ shifted) ∨
      (shifted ≠ 0 ∧ units index < 2 ^ 52 * 2 ^ shifted) := by
  rcases Nat.lt_or_ge (shift index) shifted with less | enough
  · refine .inr ⟨by omega, ?_⟩
    calc units index = significand index * 2 ^ shift index := units_eq index
      _ < 2 ^ 53 * 2 ^ shift index := Nat.mul_lt_mul_of_pos_right (significand_lt index) (Nat.two_pow_pos _)
      _ = 2 ^ 52 * 2 ^ (shift index + 1) := by ring
      _ ≤ 2 ^ 52 * 2 ^ shifted := Nat.mul_le_mul_left _ (Nat.pow_le_pow_right (by decide) less)
  · left
    refine ⟨significand index * 2 ^ (shift index - shifted), ?_⟩
    rw [units_eq, Nat.mul_assoc, ← Nat.pow_add, Nat.sub_add_cancel enough]

/-- Distances to the multiples of a unit are counted in units. -/
theorem distance_shifted (position multiple : ℚ) (shifted : Nat) :
    |position - multiple * 2 ^ shifted| = |position / 2 ^ shifted - multiple| * 2 ^ shifted := by
  have unit : (0 : ℚ) < 2 ^ shifted := by positivity
  rw [abs_sub_mul unit, div_mul_cancel₀ _ (ne_of_gt unit)]

/-- Magnitudes with a smaller shift are no competitors: the first significand of the shift is nearer. -/
theorem nearer_than_below {shifted rounded : Nat} (rounds : Rounds (position / 2 ^ shifted) rounded)
    (normal : 2 ^ 52 * 2 ^ shifted ≤ position) (less : units index < 2 ^ 52 * 2 ^ shifted) :
    |position - (rounded : ℚ) * 2 ^ shifted| < |position - units index| := by
  have lessCast : (units index : ℚ) < 2 ^ 52 * 2 ^ shifted := by exact_mod_cast less
  have first : ((2 ^ 52 : Nat) : ℚ) = 2 ^ 52 := Nat.cast_pow 2 52
  calc |position - (rounded : ℚ) * 2 ^ shifted|
      = |position / 2 ^ shifted - rounded| * 2 ^ shifted := distance_shifted position rounded shifted
    _ ≤ |position / 2 ^ shifted - (2 ^ 52 : Nat)| * 2 ^ shifted :=
        mul_le_mul_of_nonneg_right (rounds.nearest _) (by positivity)
    _ = |position - 2 ^ 52 * 2 ^ shifted| := by rw [first, ← distance_shifted]
    _ = position - 2 ^ 52 * 2 ^ shifted := abs_of_nonneg (by linarith)
    _ < position - units index := by linarith
    _ = |position - units index| := (abs_of_nonneg (by linarith)).symm

/-- A position is rounded to a significand under the shift that suits its size. -/
theorem nearestIndex_shifted {shifted rounded : Nat} (rounds : Rounds (position / 2 ^ shifted) rounded)
    (inside : position ≤ 2 ^ 53 * 2 ^ shifted) (normal : shifted = 0 ∨ 2 ^ 52 * 2 ^ shifted ≤ position) :
    NearestIndex position (shifted * 2 ^ 52 + rounded) := by
  have unit : (0 : ℚ) < 2 ^ shifted := by positivity
  have atMost : rounded ≤ 2 ^ 53 := by
    apply rounds.le_of_ge
    rw [div_le_iff₀ unit]
    exact_mod_cast inside
  have atLeast : shifted = 0 ∨ 2 ^ 52 ≤ rounded := by
    refine normal.imp_right fun normal => rounds.le_of_le ?_
    rw [le_div_iff₀ unit]
    exact_mod_cast normal
  have magnitude : ((units (shifted * 2 ^ 52 + rounded) : Nat) : ℚ) = rounded * 2 ^ shifted := by
    rw [units_shifted _ _ atMost atLeast]
    push_cast
    rfl
  constructor
  · intro other
    rw [magnitude]
    rcases multiple_or_below shifted other with ⟨multiple, same⟩ | ⟨shiftedOn, less⟩
    · rw [same]
      push_cast
      rw [distance_shifted, distance_shifted]
      exact mul_le_mul_of_nonneg_right (rounds.nearest multiple) unit.le
    · exact (nearer_than_below rounds (normal.resolve_left shiftedOn) less).le
  · intro other different tie
    have parity : (shifted * 2 ^ 52 + rounded) % 2 = rounded % 2 := by omega
    rw [magnitude] at tie
    rw [parity]
    rcases multiple_or_below shifted other with ⟨multiple, same⟩ | ⟨shiftedOn, less⟩
    · rw [same] at tie
      push_cast at tie
      rw [distance_shifted, distance_shifted] at tie
      refine rounds.even_of_tie (fun here : multiple = rounded => ?_) (mul_right_cancel₀ (ne_of_gt unit) tie)
      subst here
      apply different
      apply strictMono_units.injective
      rw [same, units_shifted _ _ atMost atLeast]
    · exact absurd tie (ne_of_gt (nearer_than_below rounds (normal.resolve_left shiftedOn) less))

/-- The binary logarithm of a quotient is found by comparing it with one power of two. -/
theorem quotientLog_spec {numerator denominator : Nat} (positive : 0 < numerator) (divisible : 0 < denominator) :
    (2 : ℚ) ^ quotientLog numerator denominator ≤ (numerator : ℚ) / denominator ∧
      (numerator : ℚ) / denominator < 2 ^ (quotientLog numerator denominator + 1) := by
  have two : (2 : ℚ) ≠ 0 := by norm_num
  have divisor : (0 : ℚ) < denominator := by exact_mod_cast divisible
  have numeratorLow : (2 : ℚ) ^ numerator.log2 ≤ numerator := by
    exact_mod_cast Nat.log2_self_le (by omega)
  have numeratorHigh : (numerator : ℚ) < 2 ^ (numerator.log2 + 1) := by
    exact_mod_cast Nat.lt_log2_self
  have denominatorLow : (2 : ℚ) ^ denominator.log2 ≤ denominator := by
    exact_mod_cast Nat.log2_self_le (by omega)
  have denominatorHigh : (denominator : ℚ) < 2 ^ (denominator.log2 + 1) := by
    exact_mod_cast Nat.lt_log2_self
  unfold quotientLog
  dsimp only
  generalize guessed : (numerator.log2 : Int) - (denominator.log2 : Int) = guess
  have above : (numerator : ℚ) / denominator < 2 ^ (guess + 1) := by
    rw [div_lt_iff₀ divisor]
    calc (numerator : ℚ) < 2 ^ (numerator.log2 + 1) := numeratorHigh
      _ = 2 ^ (guess + 1) * 2 ^ denominator.log2 := by
          rw [← zpow_natCast, ← zpow_natCast, ← zpow_add₀ two]
          congr 1
          omega
      _ ≤ 2 ^ (guess + 1) * denominator := mul_le_mul_of_nonneg_left denominatorLow (by positivity)
  have below : (2 : ℚ) ^ (guess - 1) ≤ numerator / denominator := by
    rw [le_div_iff₀ divisor]
    calc (2 : ℚ) ^ (guess - 1) * denominator
        ≤ 2 ^ (guess - 1) * 2 ^ (denominator.log2 + 1) :=
          mul_le_mul_of_nonneg_left denominatorHigh.le (by positivity)
      _ = 2 ^ numerator.log2 := by
          rw [← zpow_natCast, ← zpow_natCast, ← zpow_add₀ two]
          congr 1
          omega
      _ ≤ numerator := numeratorLow
  have test : denominator * twoTo guess.toNat ≤ numerator * twoTo (-guess).toNat ↔
      (2 : ℚ) ^ guess ≤ numerator / denominator := by
    rw [zpow_eq_div 2, div_le_div_iff₀ (by positivity) divisor, ← cast_twoTo, ← cast_twoTo,
      mul_comm denominator]
    exact_mod_cast Iff.rfl
  split
  · rename_i reached
    exact ⟨test.1 reached, above⟩
  · rename_i missed
    refine ⟨below, ?_⟩
    rw [sub_add_cancel]
    exact lt_of_not_ge fun reached => missed (test.2 reached)

/-- A quotient is rounded under the shift that its logarithm gives, whatever power of two the smallest magnitude
is. -/
theorem nearestIndex_quotient {numerator denominator shifted one : Nat} {bias : Int} (places : Nat)
    (positive : 0 < numerator) (divisible : 0 < denominator) (power : one = twoTo places) (same : bias = places)
    (shifts : shifted = (quotientLog numerator denominator - 52 + bias).toNat) :
    NearestIndex ((numerator : ℚ) / denominator * one)
      (shifted * 2 ^ 52 + roundQuotient (numerator * one) (denominator * twoTo shifted)) := by
  subst power
  have two : (2 : ℚ) ≠ 0 := by norm_num
  obtain ⟨low, high⟩ := quotientLog_spec positive divisible
  generalize found : quotientLog numerator denominator = log at *
  have places' : (0 : ℚ) < 2 ^ places := by positivity
  rw [cast_twoTo]
  apply nearestIndex_shifted
  · have rounds := rounds_roundQuotient (numerator * twoTo places)
      (Nat.mul_pos divisible (Nat.two_pow_pos shifted))
    rw [Nat.cast_mul, Nat.cast_mul, cast_twoTo, ← Nat.pow_eq, cast_twoTo] at rounds
    convert rounds using 1
    field_simp
  · calc (numerator : ℚ) / denominator * 2 ^ places
        ≤ 2 ^ (log + 1) * 2 ^ places := mul_le_mul_of_nonneg_right high.le places'.le
      _ = 2 ^ (log + 1 + places) := by rw [← zpow_natCast, ← zpow_add₀ two]
      _ ≤ 2 ^ (((53 + shifted : Nat)) : Int) := zpow_le_zpow_right₀ (by norm_num) (by omega)
      _ = 2 ^ 53 * 2 ^ shifted := by rw [zpow_natCast, pow_add]
  · rcases Nat.eq_zero_or_pos shifted with none | some
    · exact .inl none
    · right
      calc (2 : ℚ) ^ 52 * 2 ^ shifted = 2 ^ (((52 + shifted : Nat)) : Int) := by rw [zpow_natCast, pow_add]
        _ = 2 ^ (log + places) := by
            congr 1
            omega
        _ = 2 ^ log * 2 ^ places := by rw [zpow_add₀ two, zpow_natCast]
        _ ≤ (numerator : ℚ) / denominator * 2 ^ places := mul_le_mul_of_nonneg_right low places'.le

-- The kernel computes both sides, since the elaborator does not open such large powers.
theorem unitsInOne_eq : unitsInOne = twoTo 1074 := by
  decide +kernel

theorem unitsInOne_pos : 0 < unitsInOne := by
  decide +kernel

/-- A double has a sign and is nearest to a magnitude, and it is infinite past the last finite one. -/
inductive Nearest (negative : Bool) (magnitude : ℚ) : Double → Prop where
  | finite {index : Fin magnitudeCount} (nearest : NearestIndex (magnitude * unitsInOne) index) :
      Nearest negative magnitude (.finite negative index)
  | infinite {index : Nat} (past : magnitudeCount ≤ index) (nearest : NearestIndex (magnitude * unitsInOne) index) :
      Nearest negative magnitude (.infinite negative)

variable {negative : Bool} {double first second : Double}

theorem nearest_iff : Nearest negative exact double ↔
    ∃ index, double = ofIndex negative index ∧ NearestIndex (exact * unitsInOne) index := by
  constructor
  · intro nearest
    cases nearest with
    | @finite index nearest => exact ⟨index, by rw [ofIndex, dif_pos index.isLt], nearest⟩
    | @infinite index past nearest => exact ⟨index, by rw [ofIndex, dif_neg (Nat.not_lt.2 past)], nearest⟩
  · rintro ⟨index, rfl, nearest⟩
    rw [ofIndex]
    split
    · exact .finite nearest
    · rename_i past
      exact .infinite (Nat.le_of_not_lt past) nearest

theorem Nearest.unique (here : Nearest negative exact first) (there : Nearest negative exact second) :
    first = second := by
  obtain ⟨index, rfl, nearest⟩ := nearest_iff.1 here
  obtain ⟨other, rfl, otherNearest⟩ := nearest_iff.1 there
  rw [nearest.unique otherNearest]

theorem ofQuotient_nearest (negative : Bool) (numerator : Nat) {denominator : Nat} (divisible : 0 < denominator) :
    Nearest negative (numerator / denominator) (ofQuotient negative numerator denominator) := by
  rw [nearest_iff]
  unfold ofQuotient
  split
  · rename_i nothing
    refine ⟨0, rfl, ?_⟩
    rw [nothing, Nat.cast_zero, zero_div, zero_mul]
    exact (nearestIndex_zero_iff le_rfl).2 (by norm_num)
  · rename_i something
    exact ⟨_, rfl, nearestIndex_quotient 1074 (Nat.pos_of_ne_zero something) divisible unitsInOne_eq rfl rfl⟩

theorem ofDecimal_nearest (negative : Bool) (coefficient : Nat) (exponent : Int) :
    Nearest negative (coefficient * 10 ^ exponent) (ofDecimal negative coefficient exponent) := by
  have nearest := ofQuotient_nearest negative (coefficient * tenTo exponent.toNat) (tenTo_pos (-exponent).toNat)
  rwa [Nat.cast_mul, cast_tenTo, cast_tenTo, mul_div_assoc, ← zpow_eq_div] at nearest

/-- A number is in the range of normal doubles. -/
def Normal (exact : ℚ) : Prop :=
  2 ^ (-1022 : Int) ≤ exact ∧ exact ≤ (2 ^ 53 - 1) * 2 ^ (971 : Int)

theorem zpow_mul_twoTo (power : Int) (places : Nat) :
    (2 : ℚ) ^ power * (twoTo places : Nat) = 2 ^ (power + places) := by
  rw [cast_twoTo, zpow_add₀ (by norm_num), zpow_natCast]

/-- The largest significand, shifted. -/
theorem units_largest (shifted : Nat) :
    ((units (shifted * 2 ^ 52 + (2 ^ 53 - 1)) : Nat) : ℚ) = (2 ^ 53 - 1) * 2 ^ (shifted : Int) := by
  rw [units_shifted _ _ (by decide) (.inr (by decide)), zpow_natCast, Nat.cast_mul, Nat.cast_pow]
  norm_num

/-- Numbers in the normal range have normal finite doubles. -/
theorem Normal.inside (normal : Normal exact) (nearest : NearestIndex (exact * unitsInOne) index) :
    2 ^ 52 ≤ index ∧ index < magnitudeCount := by
  have unit : (0 : ℚ) ≤ (unitsInOne : Nat) := Nat.cast_nonneg _
  constructor
  · have first : units (2 ^ 52) = 2 ^ 52 := by decide +kernel
    apply nearest.le_of_le
    rw [first]
    calc ((2 ^ 52 : Nat) : ℚ) = 2 ^ ((-1022 : Int) + (1074 : Nat)) := by norm_num
      _ = 2 ^ (-1022 : Int) * unitsInOne := by rw [unitsInOne_eq, zpow_mul_twoTo]
      _ ≤ exact * unitsInOne := mul_le_mul_of_nonneg_right normal.1 unit
  · have count : magnitudeCount = 2045 * 2 ^ 52 + (2 ^ 53 - 1) + 1 := by decide +kernel
    rw [count, Nat.lt_succ_iff]
    apply nearest.le_of_ge
    calc exact * unitsInOne
        ≤ (2 ^ 53 - 1) * 2 ^ (971 : Int) * unitsInOne := mul_le_mul_of_nonneg_right normal.2 unit
      _ = (2 ^ 53 - 1) * 2 ^ ((971 : Int) + (1074 : Nat)) := by rw [unitsInOne_eq, mul_assoc, zpow_mul_twoTo]
      _ = units (2045 * 2 ^ 52 + (2 ^ 53 - 1)) := (units_largest 2045).symm

/-- Only zero becomes a zero. -/
theorem ofInt_isZero {value : Int} (zero : (ofInt value).isZero = true) : value = 0 := by
  obtain ⟨index, result, nearest⟩ := nearest_iff.1 (ofQuotient_nearest (decide (value < 0)) value.natAbs Nat.one_pos)
  have first : index = 0 := by
    rw [ofInt, result, ofIndex] at zero
    split at zero
    · exact beq_iff_eq.1 zero
    · cases zero
  subst first
  by_contra something
  have whole : (1 : ℚ) ≤ value.natAbs := by
    exact_mod_cast Nat.pos_of_ne_zero (Int.natAbs_ne_zero.2 something)
  have many : (1 : ℚ) ≤ unitsInOne := by exact_mod_cast unitsInOne_pos
  have large : (1 : ℚ) ≤ value.natAbs / (1 : Nat) * unitsInOne := by
    rw [Nat.cast_one, div_one]
    exact one_le_mul_of_one_le_of_one_le whole many
  have small := (nearestIndex_zero_iff (by linarith)).1 nearest
  linarith

end ParserAlgebra.Double
