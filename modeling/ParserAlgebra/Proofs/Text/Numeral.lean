import Mathlib.Data.Nat.Digits.Lemmas
import Mathlib.Data.Rat.Cast.Order
import Mathlib.Tactic.FieldSimp
import Mathlib.Tactic.NormNum
import Mathlib.Tactic.Ring
import ParserAlgebra.Proofs.Text.Run
import ParserAlgebra.Text.Numeral

namespace ParserAlgebra

namespace Text

variable {digits : Text}

/-- The last digit counts ones, and a digit counts as often as its place among the ten digits says. -/
def positionalValue (digits : Text) : Nat :=
  Nat.ofDigits 10 (digits.reverse.map ("0123456789" : Text).idxOf)

/-- The first digit behind the point counts tenths. -/
def pointedValue (whole places : Text) : ℚ :=
  positionalValue whole + positionalValue places / 10 ^ places.length

/-- Capital and small letters have the same places among the sixteen digits. -/
def hexadecimalPlace (digit : CodePoint) : Nat :=
  min (("0123456789ABCDEF" : Text).idxOf digit) (("0123456789abcdef" : Text).idxOf digit)

/-- The last digit counts ones, and each digit in front of it sixteen times as many. -/
def hexadecimalPositionalValue (digits : Text) : Nat :=
  Nat.ofDigits 16 (digits.reverse.map hexadecimalPlace)

/-- Digits that are added up from the left have their positional value, if each of them has its place. -/
theorem foldl_eq_ofDigits (base : Nat) (value place : CodePoint → Nat)
    (agree : ∀ digit ∈ digits, value digit = place digit) :
    digits.foldl (fun total digit => base * total + value digit) 0 =
      Nat.ofDigits base (digits.reverse.map place) := by
  induction digits using List.reverseRecOn with
  | nil => rfl
  | append_singleton front last inductionHypothesis =>
      have before := inductionHypothesis fun digit member => agree digit (List.mem_append_left _ member)
      have here := agree last (by simp)
      rw [List.foldl_append, List.foldl_cons, List.foldl_nil, before, here, List.reverse_concat, List.map_cons,
        Nat.ofDigits_cons, Nat.add_comm]

theorem numeralValue_eq_positionalValue (run : Run isDigit digits) :
    numeralValue digits = positionalValue digits := by
  have places : ∀ digit ∈ CharacterClass.decimalDigits,
      digitValue digit = ("0123456789" : Text).idxOf digit := by decide
  exact foldl_eq_ofDigits 10 _ _ fun digit member => places digit (List.contains_iff_mem.1 (run digit member))

theorem hexadecimalValue_eq_positionalValue (run : Run isHexadecimal digits) :
    hexadecimalValue digits = hexadecimalPositionalValue digits := by
  have places : ∀ digit ∈ CharacterClass.hexadecimalDigits,
      hexadecimalDigitValue digit = hexadecimalPlace digit := by decide
  exact foldl_eq_ofDigits 16 _ _ fun digit member => places digit (List.contains_iff_mem.1 (run digit member))

theorem hexadecimalPositionalValue_lt (run : Run isHexadecimal digits) :
    hexadecimalPositionalValue digits < 16 ^ digits.length := by
  have small : ∀ digit ∈ CharacterClass.hexadecimalDigits, hexadecimalPlace digit < 16 := by decide
  have each : ∀ place ∈ digits.reverse.map hexadecimalPlace, place < 16 := by
    intro place member
    obtain ⟨digit, inside, rfl⟩ := List.mem_map.1 member
    exact small digit (List.contains_iff_mem.1 (run digit (List.mem_reverse.1 inside)))
  have bound := Nat.ofDigits_lt_base_pow_length (by decide) each
  rwa [List.length_map, List.length_reverse] at bound

theorem positionalValue_append (first second : Text) :
    positionalValue (first ++ second) = positionalValue first * 10 ^ second.length + positionalValue second := by
  simp only [positionalValue, List.reverse_append, List.map_append, Nat.ofDigits_append, List.length_map,
    List.length_reverse]
  ring

/-- A point among digits divides their value by ten for each digit behind it. -/
theorem positionalValue_pointed (whole places : Text) :
    (positionalValue (whole ++ places) : ℚ) * 10 ^ (-(places.length : Int)) = pointedValue whole places := by
  have power : (10 : ℚ) ^ places.length ≠ 0 := pow_ne_zero _ (by norm_num)
  rw [positionalValue_append, pointedValue, zpow_neg, zpow_natCast]
  push_cast
  field_simp

theorem isDigit_digitChar {digit : Nat} (small : digit < 10) :
    isDigit (CodePoint.scalar digit.digitChar) = true := by
  have each : ∀ digit < 10, isDigit (CodePoint.scalar (Nat.digitChar digit)) = true := by decide
  exact each digit small

theorem run_ofNat (number : Nat) : Run isDigit (ofNat number) := by
  induction number using Nat.strongRecOn with
  | ind number inductionHypothesis =>
      rw [ofNat, Nat.toDigits_eq_if (by decide)]
      split
      · rename_i small
        simp [isDigit_digitChar small]
      · rename_i large
        have shorter : number / 10 < number := Nat.div_lt_self (by omega) (by decide)
        have front := inductionHypothesis (number / 10) shorter
        have last := isDigit_digitChar (Nat.mod_lt number (by decide : 10 > 0))
        rw [ofNat] at front
        simp [front, last]

theorem ofNat_ne_nil (number : Nat) : ofNat number ≠ [] := by
  simp [ofNat, Nat.toDigits_ne_nil]

theorem length_ofNat_pos (number : Nat) : 0 < (ofNat number).length :=
  List.length_pos_iff.2 (ofNat_ne_nil number)

theorem numeral_ofNat (number : Nat) : Numeral (ofNat number) :=
  ⟨ofNat_ne_nil number, run_ofNat number⟩

theorem numeralValue_ofNat (number : Nat) : numeralValue (ofNat number) = number := by
  rw [numeralValue, ofNat, List.foldl_map]
  exact Nat.ofDigitChars_eq_foldl.symm.trans (Nat.ofDigitChars_toDigits (by decide) (by decide))

theorem positionalValue_ofNat (number : Nat) : positionalValue (ofNat number) = number := by
  rw [← numeralValue_eq_positionalValue (run_ofNat number), numeralValue_ofNat]

/-- A number is told from the front of a text if no digit goes on with its numeral. -/
theorem ofNat_append_inj {first second : Nat} {here there : Text} (hereStops : Stops isDigit here)
    (thereStops : Stops isDigit there) (same : ofNat first ++ here = ofNat second ++ there) :
    first = second ∧ here = there := by
  have digits : ofNat first = ofNat second := by
    rw [← (run_ofNat first).takeWhile_append hereStops, same, (run_ofNat second).takeWhile_append thereStops]
  have rest : here = there := by
    rw [← (run_ofNat first).dropWhile_append hereStops, same, (run_ofNat second).dropWhile_append thereStops]
  have value := congrArg numeralValue digits
  rw [numeralValue_ofNat, numeralValue_ofNat] at value
  exact ⟨value, rest⟩

/-- Zeros in front of a numeral add nothing. -/
theorem positionalValue_zeros (count : Nat) (digits : Text) :
    positionalValue (List.replicate count (CodePoint.scalar '0') ++ digits) = positionalValue digits := by
  have zeros : positionalValue (List.replicate count (CodePoint.scalar '0')) = 0 := by
    have place : ("0123456789" : Text).idxOf (CodePoint.scalar '0') = 0 := by decide
    simp [positionalValue, place]
  rw [positionalValue_append, zeros, Nat.zero_mul, Nat.zero_add]

end Text

end ParserAlgebra
