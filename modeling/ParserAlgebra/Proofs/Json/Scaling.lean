import ParserAlgebra.Proofs.Json.Exponent
import ParserAlgebra.Proofs.Number.Scaling
import ParserAlgebra.Proofs.Number.Shortest

namespace ParserAlgebra.Json

open ParserAlgebra.Language ParserAlgebra.Parser Text

variable {body : Text} {mantissa number : Number} {exponent : Int} {exact : ℚ} {decimal : Decimal}

/-- The text of a mantissa, the number that it is read as, and the value of its digits. -/
inductive MantissaValue : Text → Number → ℚ → Prop where
  | whole {digits : Text} {value : Nat} (numeral : IntegerText digits value) :
      MantissaValue digits (.integer value) value
  | fraction {whole places : Text} {value : Double} (left : Numeral whole) (right : Numeral places)
      (nearest : Double.Nearest false (pointedValue whole places) value) :
      MantissaValue (whole ++ ("." : Text) ++ places) (.real value) (pointedValue whole places)

/-- The mantissas are the texts that have a value. -/
theorem mantissaText_iff : MantissaText body mantissa ↔ ∃ exact, MantissaValue body mantissa exact := by
  constructor
  · intro here
    cases here with
    | integer numeral => exact ⟨_, .whole numeral⟩
    | real numeral =>
        obtain ⟨left, right, nearest⟩ := numeral
        exact ⟨_, .fraction left right nearest⟩
  · rintro ⟨exact, meaning⟩
    cases meaning with
    | whole numeral => exact .integer numeral
    | fraction left right nearest => exact .real (.real left right nearest)

theorem MantissaValue.nonneg (meaning : MantissaValue body mantissa exact) : 0 ≤ exact := by
  cases meaning with
  | whole numeral => exact Nat.cast_nonneg _
  | fraction left right nearest =>
      unfold pointedValue
      positivity

theorem MantissaValue.nearest {value : Double} (meaning : MantissaValue body (.real value) exact) :
    Double.Nearest false exact value := by
  cases meaning with
  | fraction left right nearest => exact nearest

/-- The double has the sign and is nearest to a decimal with an exponent applied, and infinite for an infinite one. -/
def ScaledNearest (negative : Bool) (exponent : Int) (double : Double) : Decimal → Prop
  | .finite _ coefficient power => Double.Nearest negative (coefficient * 10 ^ (power + exponent)) double
  | .infinite _ => double = .infinite negative

/-- What the precision leaves of a mantissa is scaled and becomes the nearest double. -/
theorem scaledNearest_makeNumber {sign? : Option Text} (written : mantissa.decimal? = some decimal)
    (positive : decimal.isNegative = false) (made : makeNumber sign? mantissa (some exponent) = .ok number) :
    ∃ double, number = .real double ∧ ScaledNearest (isNegative sign? mantissa) exponent double decimal.limited := by
  rw [makeNumber_scaled, decimal_signedNumber sign? written positive] at made
  dsimp only at made
  cases kept : (decimal.withSign (isNegative sign? mantissa)).scale exponent with
  | error fault =>
      rw [kept] at made
      cases made
  | ok scaled =>
      rw [kept] at made
      cases made
      refine ⟨_, rfl, ?_⟩
      cases decimal with
      | finite sign coefficient power => exact Decimal.nearest_scale kept
      | infinite sign =>
          unfold Decimal.scale at kept
          split at kept <;> cases kept
          rfl

/-- A mantissa keeps its value with up to 28 digits, or with up to 15 if it has a fraction and is zero or a normal
double. -/
def Kept (mantissa : Number) (exact : ℚ) : Prop :=
  match mantissa with
  | .integer _ => Decimal.HasDigits Decimal.precision exact
  | .real _ => Decimal.HasDigits 15 exact ∧ (exact = 0 ∨ Double.Normal exact)

/-- A kept mantissa is written as a decimal of its value. -/
theorem MantissaValue.denotes (meaning : MantissaValue body mantissa exact) (kept : Kept mantissa exact)
    (written : mantissa.decimal? = some decimal) : decimal.Denotes exact := by
  cases mantissa with
  | integer value =>
      cases meaning with
      | whole numeral =>
          cases written
          exact ⟨_, _, _, rfl, Decimal.value_ofInt _⟩
  | real real =>
      have positive := meaning.nonneg
      obtain ⟨index, rfl, nearest⟩ := Double.nearest_iff.1 meaning.nearest
      obtain ⟨⟨digits, place, same, short⟩, zero | normal⟩ := kept
      · subst zero
        rw [zero_mul] at nearest
        obtain rfl := nearest.unique ((Double.nearestIndex_zero_iff le_rfl).2 (by norm_num))
        cases written
        exact ⟨_, _, _, rfl, by simp [Decimal.value]⟩
      · obtain ⟨large, inside⟩ := normal.inside nearest
        have nonzero : index ≠ 0 := by
          have some : 0 < 2 ^ 52 := by decide
          omega
        rw [abs_of_nonneg positive] at same
        have value := Scientific.value_shortest inside large nearest same short
        rw [Number.decimal?, Double.ofIndex, dif_pos inside, Decimal.ofDouble?, if_neg nonzero] at written
        cases written
        exact ⟨_, _, _, rfl, value⟩

/-- A number with an exponent is read as the double nearest to what the precision leaves of its mantissa, which is the
double nearest to the number if the mantissa is kept. -/
theorem numberParser_scaled {sign scale : Text} {sign? : Option Text} (signed : Optional (Literal "-") sign sign?)
    (meaning : MantissaValue body mantissa exact) (scaled : ExponentText scale exponent)
    (parsed : numberParser.parse (sign ++ body ++ scale) = .success number []) :
    ∃ double decimal, number = .real double ∧ mantissa.decimal? = some decimal ∧
      ScaledNearest (isNegative sign? mantissa) exponent double decimal.limited ∧
      (Kept mantissa exact → Double.Nearest (isNegative sign? mantissa) (exact * 10 ^ exponent) double) := by
  have here : MantissaText body mantissa := mantissaText_iff.2 ⟨exact, meaning⟩
  obtain ⟨decimal, written, positive⟩ := here.decimal
  have made : makeNumber sign? mantissa (some exponent) = .ok number := by
    have readExponent := parse_optional_eq_some.2 (parse_exponentPart_append scaled (stops_nil))
    have result := parse_numberParser_parts signed here (scaled.stops []) readExponent
    rw [List.append_nil, parsed] at result
    split at result <;> cases result
    assumption
  obtain ⟨double, rfl, nearest⟩ := scaledNearest_makeNumber written positive made
  refine ⟨double, decimal, rfl, written, nearest, ?_⟩
  intro kept
  have precise : Decimal.HasDigits Decimal.precision exact := by
    cases mantissa with
    | integer value => exact kept
    | real value => exact kept.1.mono (by decide)
  obtain ⟨negative, coefficient, power, shape, value⟩ := (meaning.denotes kept written).limited precise
  rw [shape] at nearest value
  have magnitude : exact = coefficient * 10 ^ power := by
    rw [← abs_of_nonneg meaning.nonneg, ← value, Decimal.abs_value]
  rwa [magnitude, mul_assoc, ← zpow_add₀ (by norm_num)]

/-- Half of the smallest double and a little more is read as the smallest double. -/
theorem numberParser_scaled_smallest :
    numberParser.parse "-2.50E-324" = .success (.real (Double.ofIndex true 1)) [] ∧
      Double.Nearest true (pointedValue "2" "50" * 10 ^ (-324 : Int)) (Double.ofIndex true 1) := by
  have minus : Optional (Literal "-") "-" (some "-") := .present ⟨rfl, rfl⟩
  have two : Numeral "2" := ⟨by decide, by decide⟩
  have fifty : Numeral "50" := ⟨by decide, by decide⟩
  have digits : IntegerText "324" 324 := .integer ⟨by decide, by decide⟩ (by decide)
  have scale : ExponentText "E-324" (-324) :=
    .exponent (show ("E" : Text) ∈ _ by decide) (.present ⟨rfl, show ("-" : Text) ∈ _ by decide⟩) digits
  have meaning : MantissaValue "2.50" (.real (readReal "2" "50")) (pointedValue "2" "50") :=
    .fraction two fifty (readReal_nearest two fifty)
  have parsed : numberParser.parse "-2.50E-324" = .success (.real (Double.ofIndex true 1)) [] := by decide +kernel
  obtain ⟨double, -, same, -, -, nearest⟩ := numberParser_scaled minus meaning scale parsed
  cases same
  have least : (2 : ℚ) ^ (-1022 : Int) ≤ 1 := zpow_le_one_of_nonpos₀ (by norm_num) (by decide)
  have largest : (1 : ℚ) ≤ 2 ^ (971 : Int) := one_le_zpow₀ (by norm_num) (by decide)
  have exact : pointedValue "2" "50" = 250 * 10 ^ (-2 : Int) := by
    have wholeValue : positionalValue "2" = 2 := by decide
    have placesValue : positionalValue "50" = 50 := by decide
    have places : ("50" : Text).length = 2 := by decide
    rw [pointedValue, wholeValue, placesValue, places]
    norm_num
  refine ⟨parsed, nearest ?_⟩
  rw [exact]
  refine ⟨⟨250, -2, abs_of_nonneg (by norm_num), by decide⟩, .inr ⟨?_, ?_⟩⟩
  · exact least.trans (by norm_num)
  · calc (250 : ℚ) * 10 ^ (-2 : Int) ≤ (2 ^ 53 - 1) * 1 := by norm_num
      _ ≤ (2 ^ 53 - 1) * 2 ^ (971 : Int) := mul_le_mul_of_nonneg_left largest (by norm_num)

/-- A minus sign is lost in front of an integer of zero, and kept in front of a fraction. -/
example :
    numberParser.parse "-0e5" = .success (.real (.zero false)) [] ∧
      numberParser.parse "-0.0e5" = .success (.real (.zero true)) [] := by
  decide +kernel

/-- A mantissa of seventeen digits becomes another number before the exponent is applied. -/
theorem scaled_not_nearest :
    let double := (Decimal.finite false 9007199254740992 1).toDouble
    let mantissa := pointedValue "9007199254740993" "0"
    numberParser.parse "9007199254740993.0e1" = .success (.real double) [] ∧
      (∃ read, MantissaValue "9007199254740993.0" read mantissa) ∧
      ExponentText "e1" 1 ∧ ¬ Double.Nearest false (mantissa * 10 ^ (1 : Int)) double := by
  intro double mantissa
  have whole : Numeral "9007199254740993" := ⟨by decide, by decide⟩
  have zero : Numeral "0" := ⟨by decide, by decide⟩
  have digit : IntegerText "1" 1 := .integer ⟨by decide, by decide⟩ (by decide)
  refine ⟨by decide +kernel, ⟨_, .fraction whole zero (readReal_nearest whole zero)⟩,
    .exponent (show ("e" : Text) ∈ _ by decide) .absent digit, ?_⟩
  intro nearest
  have exact : mantissa = (9007199254740993 : Nat) := by
    have wholeValue : positionalValue "9007199254740993" = 9007199254740993 := by decide +kernel
    have placesValue : positionalValue "0" = 0 := by decide
    simp only [mantissa, pointedValue, wholeValue, placesValue, Nat.cast_zero, zero_div, add_zero]
  rw [exact] at nearest
  have same := (Double.ofDecimal_nearest false 9007199254740993 1).unique nearest
  exact absurd same (by decide +kernel)

end ParserAlgebra.Json
