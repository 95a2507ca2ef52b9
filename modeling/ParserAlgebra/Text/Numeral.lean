import ParserAlgebra.Text.Basic

namespace ParserAlgebra

abbrev twoTo (exponent : Nat) : Nat :=
  Nat.pow 2 exponent

abbrev tenTo (exponent : Nat) : Nat :=
  Nat.pow 10 exponent

/-- This function gives the value of one decimal digit. -/
def digitValue (digit : CodePoint) : Nat :=
  digit.toNat - 48

/-- This function gives the value of a decimal numeral. -/
def numeralValue (digits : Text) : Nat :=
  digits.foldl (fun total digit => 10 * total + digitValue digit) 0

/-- This function gives the value of one hexadecimal digit in either case. -/
def hexadecimalDigitValue (digit : CodePoint) : Nat :=
  let number := digit.toNat
  if number < 58 then number - 48
  else if number < 71 then number - 55
  else number - 87

/-- This function gives the value of a hexadecimal numeral. -/
def hexadecimalValue (digits : Text) : Nat :=
  digits.foldl (fun total digit => 16 * total + hexadecimalDigitValue digit) 0

namespace Text

/-- This function writes a natural number in decimal digits. -/
def ofNat (number : Nat) : Text :=
  (Nat.toDigits 10 number).map CodePoint.scalar

/-- This function writes an integer in decimal digits, with a minus sign if it is negative. -/
def ofInt (number : Int) : Text :=
  if number < 0 then CodePoint.scalar '-' :: ofNat number.natAbs else ofNat number.natAbs

/-- This function writes a number in lower case hexadecimal digits of a fixed width. -/
def ofNatHexadecimal : Nat → Nat → Text
  | 0, _ => []
  | width + 1, number =>
      ofNatHexadecimal width (number / 16) ++ [CodePoint.scalar (Nat.digitChar (number % 16))]

end Text

/-- This function climbs the powers of ten until one passes the number. -/
def climbPowers (number : Nat) : Nat → Nat → Nat → Nat
  | 0, _, count => count
  | fuel + 1, power, count =>
      if number < power then count else climbPowers number fuel (power * 10) (count + 1)

/-- This function counts the decimal digits of a number, and gives zero for zero. -/
def digitCount (number : Nat) : Nat :=
  -- The binary length shows that this power is small enough to start with.
  let start := number.log2 * 59 / 196
  climbPowers number (number.log2 + 2) (tenTo start) start

/-- The climb ends above the number if it may go far enough. -/
theorem climbPowers_upper (number fuel count : Nat) (enough : number < tenTo (count + fuel)) :
    number < tenTo (climbPowers number fuel (tenTo count) count) := by
  induction fuel generalizing count with
  | zero => exact enough
  | succ fuel inductionHypothesis =>
      rw [climbPowers]
      split
      · assumption
      · exact inductionHypothesis (count + 1) (by rwa [Nat.add_right_comm])

/-- The climb stops at the first power above the number. -/
theorem climbPowers_lower (number fuel count : Nat) (start : tenTo count ≤ 10 * number) :
    tenTo (climbPowers number fuel (tenTo count) count) ≤ 10 * number := by
  induction fuel generalizing count with
  | zero => exact start
  | succ fuel inductionHypothesis =>
      rw [climbPowers]
      split
      · exact start
      · rename_i reached
        apply inductionHypothesis (count + 1)
        have next : tenTo (count + 1) = 10 * tenTo count := Nat.mul_comm ..
        rw [next]
        exact Nat.mul_le_mul_left 10 (Nat.le_of_not_lt reached)

/-- Ten to a share of the binary length stays below the power of two. -/
theorem tenTo_share_le (length : Nat) : tenTo (length * 59 / 196) ≤ twoTo length := by
  have small : 10 ^ 59 ≤ 2 ^ 196 := by decide
  have share : length * 59 / 196 * 196 ≤ 59 * length := by
    rw [Nat.mul_comm 59]
    exact Nat.div_mul_le_self _ _
  have powers : (10 ^ (length * 59 / 196)) ^ 196 ≤ (2 ^ length) ^ 196 :=
    calc (10 ^ (length * 59 / 196)) ^ 196
        = 10 ^ (length * 59 / 196 * 196) := (Nat.pow_mul ..).symm
      _ ≤ 10 ^ (59 * length) := Nat.pow_le_pow_right (by decide) share
      _ = (10 ^ 59) ^ length := Nat.pow_mul ..
      _ ≤ (2 ^ 196) ^ length := Nat.pow_le_pow_left small length
      _ = 2 ^ (196 * length) := (Nat.pow_mul ..).symm
      _ = 2 ^ (length * 196) := congrArg (2 ^ ·) (Nat.mul_comm ..)
      _ = (2 ^ length) ^ 196 := Nat.pow_mul ..
  exact (Nat.pow_le_pow_iff_left (by decide)).1 powers

/-- A number lies below the power of ten that its digits are counted by. -/
theorem lt_tenTo_digitCount (number : Nat) : number < tenTo (digitCount number) := by
  apply climbPowers_upper
  have binary : number < 2 ^ (number.log2 + 1) := Nat.lt_log2_self
  have larger : 2 ^ (number.log2 + 1) ≤ 10 ^ (number.log2 + 1) :=
    Nat.pow_le_pow_left (by decide) _
  have longer : 10 ^ (number.log2 + 1) ≤ 10 ^ (number.log2 * 59 / 196 + (number.log2 + 2)) :=
    Nat.pow_le_pow_right (by decide) (by omega)
  exact Nat.lt_of_lt_of_le binary (Nat.le_trans larger longer)

/-- A positive number has no digit more than its size requires. -/
theorem tenTo_digitCount_le (number : Nat) (positive : number ≠ 0) :
    tenTo (digitCount number) ≤ 10 * number := by
  apply climbPowers_lower
  have below : tenTo (number.log2 * 59 / 196) ≤ number :=
    Nat.le_trans (tenTo_share_le number.log2) (Nat.log2_self_le positive)
  omega

end ParserAlgebra
