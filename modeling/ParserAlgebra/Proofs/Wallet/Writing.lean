import ParserAlgebra.Proofs.Number.Decimal
import ParserAlgebra.Proofs.Text.Numeral
import ParserAlgebra.Proofs.Wallet.Recognition

namespace ParserAlgebra

open ParserAlgebra.Language ParserAlgebra.Parser Text

namespace Money

variable {coefficient : Nat} {exponent : Int} {rest text : Text} {money : Money}

/-- This is money as the parser builds it: a positive amount without a positive exponent, in a known
currency. -/
inductive Plain : Money → Prop where
  | plain {coefficient : Nat} {exponent : Int} {code : Text} (small : exponent ≤ 0)
      (known : code ∈ currencyCodes) : Plain ⟨.finite false coefficient exponent, code⟩

/-- Money is written without an exponent if its leading digit is not too far behind the point. -/
def Positional (money : Money) : Prop :=
  Decimal.smallestPositional ≤ money.amount.leadingExponent

instance : DecidablePred Positional := fun money =>
  inferInstanceAs (Decidable (Decimal.smallestPositional ≤ money.amount.leadingExponent))

theorem MoneyText.plain (member : MoneyText text money) : Plain money := by
  have amounts {text : Text} {amount : Decimal} (here : AmountText text amount) :
      ∃ coefficient exponent, amount = .finite false coefficient exponent ∧ exponent ≤ 0 := by
    cases here with
    | whole numeral => exact ⟨_, 0, rfl, Int.le_refl 0⟩
    | @fraction whole places left right => exact ⟨_, _, rfl, by omega⟩
  cases member with
  | symbol known between here =>
      have codes : ∀ entry ∈ currencySymbols, entry.2 ∈ currencyCodes := by decide
      obtain ⟨coefficient, exponent, rfl, small⟩ := amounts here
      exact .plain small (codes _ known)
  | code here between known =>
      obtain ⟨coefficient, exponent, rfl, small⟩ := amounts here
      exact .plain small known

/-- A point between the digits of a numeral, or zeros between a point and the numeral, make a
fraction of its value. -/
theorem amountText_pointed (point : Int) (inside : point < (Text.ofNat coefficient).length) :
    AmountText (Decimal.pointed (Text.ofNat coefficient) point)
      (.finite false coefficient (point - (Text.ofNat coefficient).length)) := by
  have numeral := numeral_ofNat coefficient
  have value := positionalValue_ofNat coefficient
  generalize Text.ofNat coefficient = digits at *
  rw [Decimal.pointed]
  split
  · -- The point stands in front of all digits.
    have places : Numeral (Double.zeros (-point).toNat ++ digits) :=
      ⟨by simp [numeral.nonempty], run_append.2 ⟨run_replicate rfl _, numeral.run⟩⟩
    have zero : Numeral "0" := ⟨by decide, by decide⟩
    have whole := AmountText.fraction zero places
    have read : positionalValue (("0" : Text) ++ (Double.zeros (-point).toNat ++ digits)) = coefficient := by
      rw [← value]
      exact positionalValue_zeros ((-point).toNat + 1) digits
    have length : (-((Double.zeros (-point).toNat ++ digits).length : Int)) = point - digits.length := by
      simp only [Double.zeros, List.length_append, List.length_replicate]
      omega
    have shape : Text.concat ["0.", Double.zeros (-point).toNat, digits] =
        ("0" : Text) ++ ("." : Text) ++ (Double.zeros (-point).toNat ++ digits) := by
      simp [Text.concat, Text.ofString]
    rwa [read, length, ← shape] at whole
  · have between : ¬ digits.length ≤ point.toNat := by omega
    rw [if_neg between]
    have run := numeral.run
    rw [← List.take_append_drop point.toNat digits, run_append] at run
    have before : Numeral (digits.take point.toNat) :=
      ⟨List.ne_nil_of_length_pos (by rw [List.length_take]; omega), run.1⟩
    have behind : Numeral (digits.drop point.toNat) :=
      ⟨List.ne_nil_of_length_pos (by rw [List.length_drop]; omega), run.2⟩
    have whole := AmountText.fraction before behind
    have length : (-((digits.drop point.toNat).length : Int)) = point - digits.length := by
      rw [List.length_drop]
      omega
    rw [List.take_append_drop, value, length] at whole
    simpa [Text.concat] using whole

/-- The digits of a numeral with a point behind the first one are an amount. -/
theorem amountText_leading (coefficient : Nat) :
    ∃ amount, AmountText (Decimal.pointed (Text.ofNat coefficient) 1) amount := by
  by_cases inside : (1 : Int) < (Text.ofNat coefficient).length
  · exact ⟨_, amountText_pointed 1 inside⟩
  · have single : (Text.ofNat coefficient).length ≤ (1 : Int).toNat := by omega
    refine ⟨.finite false (positionalValue (Text.ofNat coefficient)) 0, ?_⟩
    rw [Decimal.pointed, if_neg (by decide), if_pos single]
    exact .whole (numeral_ofNat coefficient)

/-- A written amount without an exponent means the amount. -/
theorem amountText_positional (small : exponent ≤ 0)
    (positional : Decimal.smallestPositional ≤ exponent + (Text.ofNat coefficient).length - 1) :
    AmountText (Decimal.magnitudeText coefficient exponent) (.finite false coefficient exponent) := by
  have point : exponent + (Text.ofNat coefficient).length - 1 + 1 =
      exponent + (Text.ofNat coefficient).length := by omega
  simp only [Decimal.magnitudeText, small, positional, and_self, if_true, point]
  by_cases whole : exponent = 0
  · subst whole
    have numeral := numeral_ofNat coefficient
    have positive := length_ofNat_pos coefficient
    have digits := AmountText.whole numeral
    rw [positionalValue_ofNat] at digits
    rw [Decimal.pointed, if_neg (by omega), if_pos (by omega)]
    exact digits
  · have inside : exponent + (Text.ofNat coefficient).length < (Text.ofNat coefficient).length := by omega
    have fraction := amountText_pointed _ inside
    rwa [Int.add_sub_cancel] at fraction

/-- A leading digit too far behind the point is written with an exponent behind an amount. -/
theorem magnitudeText_scientific
    (scientific : ¬ Decimal.smallestPositional ≤ exponent + (Text.ofNat coefficient).length - 1) :
    ∃ text amount power, AmountText text amount ∧
      Decimal.magnitudeText coefficient exponent = text ++ (("E-" : Text) ++ power) := by
  obtain ⟨amount, here⟩ := amountText_leading coefficient
  have far : exponent + (Text.ofNat coefficient).length - 1 < 0 := by
    simp only [Decimal.smallestPositional] at scientific
    omega
  refine ⟨_, amount, Text.ofNat (exponent + (Text.ofNat coefficient).length - 1).natAbs, here, ?_⟩
  simp only [Decimal.magnitudeText, scientific, and_false, if_false, if_neg (Int.ne_of_lt far),
    Decimal.exponentText, if_pos far]
  simp [Text.concat, Text.ofString]

theorem text_plain (coefficient : Nat) (exponent : Int) (code : Text) :
    Money.text ⟨.finite false coefficient exponent, code⟩ =
      Decimal.magnitudeText coefficient exponent ++ (" " : Text) ++ code := by
  simp [Money.text, Decimal.text, Text.concat, Text.ofString]

theorem moneyText_text (plain : Plain money) (positional : Positional money) :
    MoneyText money.text money := by
  obtain ⟨small, known⟩ := plain
  rw [text_plain]
  exact .code (amountText_positional small positional) (by decide) known

/-- The failure of a code that no currency has. -/
def unknownCurrency (code : Text) : Failure :=
  .custom (Text.concat ["Unknown currency code '", code, "'."])

/-- The mark of an exponent is read as a currency code. -/
theorem parse_moneyParser_exponent {amount : Decimal} (here : AmountText text amount) (power : Text) :
    moneyParser.parse (text ++ (("E-" : Text) ++ power)) = .failure (unknownCurrency "E") := by
  have digit : Apart ("$€£¥" : Text).contains text := here.apart (by decide)
  have readAmount := parse_amountParser_append here
    (show Stops isNumeralPart (("E-" : Text) ++ power) from Stops.append (by decide) (by decide))
  have readBlank : spaces.parse (("E-" : Text) ++ power) = .success () (("E-" : Text) ++ power) := rfl
  have readCode : codeParser.parse (("E-" : Text) ++ power) = .failure (unknownCurrency "E") := rfl
  rw [moneyParser, (refuses_symbolMoney digit).parse_oneOf]
  simp only [parse_oneOf_singleton, codeMoney, parse_keep, parse_drop, parse_succeed,
    Outcome.andThen_success, readAmount, readBlank, readCode, Outcome.andThen_failure]

/-- Money that is written with an exponent is not read back, whatever stands around it. -/
theorem parse_token_scientific (plain : Plain money) (scientific : ¬ Positional money)
    {blank : Text} (run : Run isWhitespace blank) (rest : Text) :
    (token moneyParser).parse (blank ++ (money.text ++ rest)) = .failure (unknownCurrency "E") := by
  obtain ⟨small, known⟩ := plain
  rename_i coefficient exponent code
  obtain ⟨text, amount, power, here, written⟩ := magnitudeText_scientific scientific
  have digit : Apart isWhitespace text := here.apart (by decide)
  rw [text_plain, written]
  simp only [List.append_assoc]
  have failed := parse_moneyParser_exponent here (power ++ ((" " : Text) ++ (code ++ rest)))
  have readBlank := parse_whitespace_run run
    (digit.stops_append (("E-" : Text) ++ (power ++ ((" " : Text) ++ (code ++ rest)))))
  simp only [token, parse_keep, parse_drop, parse_succeed, Outcome.andThen_success, readBlank, failed,
    Outcome.andThen_failure]

end Money

end ParserAlgebra
