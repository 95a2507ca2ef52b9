import ParserAlgebra.Proofs.Calculator.Fault
import ParserAlgebra.Proofs.Json.Fault

namespace ParserAlgebra

open ParserAlgebra.Parser

/-- The decoder raises a fault exactly at a number that no decimal can hold, and the calculator at one too large for a
double. -/
theorem fault_iff {source : Text} {fault : Fault} :
    ((Json.decode source).value = .fault fault ↔
      (fault = .decimalInvalid ∨ fault = .decimalOverflow) ∧
        Json.Raising (source.dropWhile isWhitespace) fault) ∧
    ((Expression.evaluate source).value = .fault fault ↔
      (fault = .quotientTooLarge ∨ fault = .integerTooLarge) ∧
        ∃ tree, Expression.wholeExpression.parse source = .success tree [] ∧
          tree.compute = .error fault) := by
  refine ⟨?_, Expression.evaluate_eq_fault_iff⟩
  rw [Json.decode_eq_fault_iff]
  constructor
  · intro raising
    exact ⟨raising.decimal, raising⟩
  · rintro ⟨-, raising⟩
    exact raising

/-- An integer with an exponent raises the fault of its scaling. -/
theorem Json.decode_scaled {digits power : Text} {value exponent : Nat} {fault : Fault}
    (mantissa : IntegerText digits value) (scale : IntegerText power exponent)
    (raised : Json.makeNumber none (.integer value) (some exponent) = .error fault) :
    (Json.decode (digits ++ (("e" : Text) ++ power))).value = .fault fault := by
  have part : Json.ExponentText (("e" : Text) ++ [] ++ power) exponent :=
    .exponent (by decide) .absent scale
  have numeral : Json.RaisingNumber ([] ++ digits ++ (("e" : Text) ++ [] ++ power)) fault :=
    .number .absent (.integer mantissa) part raised
  simp only [List.nil_append, List.append_nil] at numeral
  have raising : Json.Raising (digits ++ (("e" : Text) ++ power) ++ []) fault := .number numeral (by decide)
  rw [List.append_nil] at raising
  rw [Json.decode_eq_fault_iff, raising.stops.dropWhile_eq]
  exact raising

/-- Each of these faults is raised. -/
theorem faults_raised :
    let large : Text := CodePoint.scalar '1' :: List.replicate 309 (CodePoint.scalar '0')
    (Json.decode "1e2000055").value = .fault .decimalInvalid ∧
      (Json.decode "1e1000000").value = .fault .decimalOverflow ∧
      (Expression.evaluate (large ++ ("/1" : Text))).value = .fault .quotientTooLarge ∧
      (Expression.evaluate (large ++ ("+0.5" : Text))).value = .fault .integerTooLarge := by
  intro large
  have one : IntegerText "1" 1 := .integer ⟨by decide, by decide⟩ (by decide)
  have invalid : IntegerText "2000055" 2000055 := .integer ⟨by decide, by decide⟩ (by decide)
  have overflow : IntegerText "1000000" 1000000 := .integer ⟨by decide, by decide⟩ (by decide)
  have first : ("1e2000055" : Text) = ("1" : Text) ++ (("e" : Text) ++ ("2000055" : Text)) := by decide
  have second : ("1e1000000" : Text) = ("1" : Text) ++ (("e" : Text) ++ ("1000000" : Text)) := by decide
  refine ⟨?_, ?_, ?_, ?_⟩
  · rw [first]
    exact Json.decode_scaled one invalid rfl
  · rw [second]
    exact Json.decode_scaled one overflow rfl
  · decide +kernel
  · decide +kernel

end ParserAlgebra
