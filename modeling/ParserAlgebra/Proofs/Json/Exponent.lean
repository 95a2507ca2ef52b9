import ParserAlgebra.Proofs.Json.Fault
import ParserAlgebra.Proofs.Number.Nearest

namespace ParserAlgebra

/-- This function gives the decimal that a number is written as, and none for what is not a number. -/
def Number.decimal? : Number → Option Decimal
  | integer value => some (Decimal.ofInt value)
  | real value => Decimal.ofDouble? value

def Decimal.withSign (negative : Bool) : Decimal → Decimal
  | .finite _ coefficient exponent => .finite negative coefficient exponent
  | .infinite _ => .infinite negative

theorem Decimal.withSign_isNegative (decimal : Decimal) : decimal.withSign decimal.isNegative = decimal := by
  cases decimal <;> rfl

/-- A minus sign is lost in front of an integer of zero, and only there. -/
theorem Number.decimal_negate {number : Number} {decimal : Decimal} (written : number.decimal? = some decimal)
    (positive : decimal.isNegative = false) :
    number.negate.decimal? = some (decimal.withSign (number != .integer 0)) := by
  cases number with
  | integer value =>
      cases written
      have sign : decide (-value < 0) = (Number.integer value != .integer 0) := by
        have natural : ¬ value < 0 := of_decide_eq_false positive
        by_cases zero : value = 0
        · subst zero
          rfl
        · have below : -value < 0 := by omega
          have different : integer value ≠ integer 0 := fun same => zero (integer.inj same)
          rw [decide_eq_true below, bne_iff_ne.2 different]
      rw [negate, decimal?, Decimal.ofInt, Int.natAbs_neg, sign]
      rfl
  | real value =>
      have sign : (Number.real value != .integer 0) = true := rfl
      rw [sign]
      cases value with
      | finite negative index =>
          simp only [decimal?, Decimal.ofDouble?] at written
          simp only [decimal?, negate, Double.negate, Decimal.ofDouble?]
          split at written <;> cases written
          all_goals
            obtain rfl : negative = false := positive
          · rename_i zero
            rw [if_pos zero]
            rfl
          · rename_i nonzero
            rw [if_neg nonzero]
            rfl
      | infinite negative =>
          cases written
          obtain rfl : negative = false := positive
          rfl
      | notANumber => cases written

/-- The sign of a decimal does not matter to the faults of its scaling. -/
theorem Decimal.withSign_scale (decimal : Decimal) (negative : Bool) {power : Int} {fault : Fault} :
    (decimal.withSign negative).scale power = .error fault ↔ decimal.scale power = .error fault := by
  unfold Decimal.scale
  split
  · rfl
  · cases decimal with
    | finite sign coefficient exponent =>
        dsimp only [withSign]
        by_cases zero : coefficient = 0
        · subst zero
          rw [round_zero, round_zero]
          exact iff_of_false nofun nofun
        · rw [round_eq_error_iff _ zero, round_eq_error_iff _ zero]
    | infinite sign => exact iff_of_false nofun nofun

namespace Json

open ParserAlgebra.Language ParserAlgebra.Parser Text

variable {source text body rest : Text} {mantissa : Number} {exponent : Int} {fault : Fault}

/-- This function puts a minus sign in front of a number, or leaves it as it is. -/
def signedNumber (sign? : Option Text) (mantissa : Number) : Number :=
  if sign?.isSome then mantissa.negate else mantissa

/-- A number with an exponent is scaled as a decimal. -/
theorem makeNumber_scaled (sign? : Option Text) (mantissa : Number) (exponent : Int) :
    makeNumber sign? mantissa (some exponent) =
      match (signedNumber sign? mantissa).decimal? with
      | none => .ok (signedNumber sign? mantissa)
      | some decimal => (decimal.scale exponent).map fun scaled => .real scaled.toDouble := by
  unfold makeNumber scaleNumber signedNumber
  dsimp only
  generalize (if sign?.isSome then mantissa.negate else mantissa) = signed
  cases signed with
  | integer value =>
      dsimp only [Number.decimal?]
      cases (Decimal.ofInt value).scale exponent <;> rfl
  | real value =>
      dsimp only [Number.decimal?]
      cases Decimal.ofDouble? value with
      | none => rfl
      | some decimal =>
          dsimp only
          cases decimal.scale exponent <;> rfl

/-- Every mantissa is written as a decimal without a sign. -/
theorem MantissaText.decimal (here : MantissaText body mantissa) :
    ∃ decimal, mantissa.decimal? = some decimal ∧ decimal.isNegative = false := by
  cases here with
  | integer numeral => exact ⟨_, rfl, rfl⟩
  | real numeral =>
      obtain ⟨left, right, nearest⟩ := numeral
      obtain ⟨index, rfl, -⟩ := Double.nearest_iff.1 nearest
      rw [Double.ofIndex, Number.decimal?]
      split
      · rw [Decimal.ofDouble?]
        split
        · exact ⟨_, rfl, rfl⟩
        · exact ⟨_, rfl, rfl⟩
      · exact ⟨_, rfl, rfl⟩

/-- This test accepts a minus sign in front of anything but an integer of zero. -/
def isNegative (sign? : Option Text) (mantissa : Number) : Bool :=
  sign?.isSome && mantissa != .integer 0

theorem decimal_signedNumber {decimal : Decimal} (sign? : Option Text) (written : mantissa.decimal? = some decimal)
    (positive : decimal.isNegative = false) :
    (signedNumber sign? mantissa).decimal? = some (decimal.withSign (isNegative sign? mantissa)) := by
  cases sign? with
  | none =>
      have same := decimal.withSign_isNegative
      rw [positive] at same
      exact written.trans (congrArg some same.symm)
  | some sign => exact Number.decimal_negate written positive

/-- The sign of a mantissa does not matter to the faults of its scaling. -/
theorem makeNumber_eq_error_iff {decimal : Decimal} (sign? : Option Text) (written : mantissa.decimal? = some decimal)
    (positive : decimal.isNegative = false) :
    makeNumber sign? mantissa (some exponent) = .error fault ↔ decimal.scale exponent = .error fault := by
  rw [makeNumber_scaled, decimal_signedNumber sign? written positive,
    ← decimal.withSign_scale (isNegative sign? mantissa)]
  dsimp only
  cases (decimal.withSign (isNegative sign? mantissa)).scale exponent <;> simp [Except.map]

/-- A mantissa ends in front of a rest if no digit goes on with it, and an integer ends if no fraction does. -/
inductive Ends : Text → Number → Text → Prop where
  | real {text rest : Text} {value : Double} (numeral : RealText text value) (stops : Stops isDigit rest) :
      Ends text (.real value) rest
  | integer {text rest : Text} {value : Nat} (numeral : IntegerText text value) (stops : Stops isDigit rest)
      (whole : ∀ fraction behind, Numeral fraction → rest ≠ ("." : Text) ++ fraction ++ behind) :
      Ends text (.integer value) rest

theorem Ends.mantissaText (ends : Ends body mantissa rest) : MantissaText body mantissa := by
  cases ends with
  | real numeral stops => exact .real numeral
  | integer numeral stops whole => exact .integer numeral

theorem parse_mantissaPart_ends (ends : Ends body mantissa rest) :
    mantissaPart.parse (body ++ rest) = .success mantissa rest := by
  cases ends with
  | real numeral stops => exact parse_oneOf_real _ _ numeral stops
  | integer numeral stops whole => exact parse_oneOf_integer _ _ _ numeral stops whole

/-- A rest has no exponent if it does not begin with one that takes all of its digits. -/
def NoExponent (rest : Text) : Prop :=
  ∀ scale exponent behind, rest = scale ++ behind → ExponentText scale exponent → ¬ Stops isDigit behind

theorem noExponent_iff : NoExponent rest ↔ Refuses exponentPart rest := by
  constructor
  · intro none
    cases parsed : exponentPart.parse rest with
    | failure reason => exact ⟨reason, parsed⟩
    | fault reason => exact (steady_exponentPart parsed).elim
    | success exponent behind =>
        obtain ⟨scale, shape, part⟩ := reads_exponentPart parsed
        exact absurd (stops_of_exponentPart parsed) (none scale exponent behind shape part)
  · rintro ⟨reason, failed⟩ scale exponent behind rfl part stops
    rw [parse_exponentPart_append part stops] at failed
    cases failed

/-- An exponent with too many digits is none. -/
theorem noExponent_overlong {mark sign digits : Text} {sign? : Option Text}
    (known : mark ∈ (["e", "E"] : List Text)) (signed : Optional (Chosen ["+", "-"]) sign sign?)
    (numeral : Numeral digits) (long : integerDigitLimit < digits.length) (stops : Stops isDigit rest) :
    NoExponent (mark ++ sign ++ digits ++ rest) := by
  refine noExponent_iff.2 ⟨.unexpected digits, ?_⟩
  rw [parse_exponentPart_digits known signed numeral, parse_integerNumber_overlong numeral.run stops long,
    Outcome.andThen_failure]

end Json

end ParserAlgebra
