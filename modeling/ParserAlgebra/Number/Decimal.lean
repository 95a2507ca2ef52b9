import ParserAlgebra.Fault
import ParserAlgebra.Number.Shortest

namespace ParserAlgebra

/-- A decimal number with a sign, a coefficient and a power of ten, which are kept apart even if the value is the
same. -/
inductive Decimal where
  | finite (negative : Bool) (coefficient : Nat) (exponent : Int)
  | infinite (negative : Bool)
  deriving DecidableEq

namespace Decimal

/-- Results of arithmetic have at most this many digits. -/
def precision : Nat := 28

/-- The largest power of ten of a leading digit. -/
def largestExponent : Int := 999999

/-- The smallest power of ten of a last digit. -/
def smallestExponent : Int := -1000026

/-- Scaling by a power of ten is allowed up to this power, in both directions. -/
def largestScale : Nat := 2000054

/-- This function limits a coefficient to the precision, with ties to the even one and a fault above the largest
exponent. -/
def round : Decimal → Except Fault Decimal
  | infinite negative => .ok (infinite negative)
  | finite negative coefficient exponent =>
      if coefficient = 0 then
        .ok (finite negative 0 (min (max exponent smallestExponent) largestExponent))
      else
        -- The exponent never falls below the smallest one, so tiny numbers become zero.
        let target := max (exponent + digitCount coefficient - precision) smallestExponent
        let (rounded, last) :=
          if exponent < target then
            let shortened := roundQuotient coefficient (tenTo (target - exponent).toNat)
            if shortened = tenTo precision then (tenTo (precision - 1), target + 1)
            else (shortened, target)
          else (coefficient, exponent)
        if largestExponent < last + digitCount rounded - 1 then .error .decimalOverflow
        else .ok (finite negative rounded last)

/-- This function gives a finite number as a signed multiple of a power of ten that is at most its
exponent. -/
def signedMultiple (negative : Bool) (coefficient : Nat) (exponent power : Int) : Int :=
  let multiple : Int := (coefficient * tenTo (exponent - power).toNat : Nat)
  if negative then -multiple else multiple

/-- This function adds two numbers. -/
def add : Decimal → Decimal → Except Fault Decimal
  | infinite first, infinite second =>
      if first = second then .ok (infinite first) else .error .decimalInvalid
  | infinite first, finite _ _ _ => .ok (infinite first)
  | finite _ _ _, infinite second => .ok (infinite second)
  | finite first left leftExponent, finite second right rightExponent =>
      let power := min leftExponent rightExponent
      let sum := signedMultiple first left leftExponent power +
        signedMultiple second right rightExponent power
      -- An exact sum of zero is positive unless both numbers are negative.
      let negative := if sum = 0 then first && second else decide (sum < 0)
      round (finite negative sum.natAbs power)

/-- This function changes the sign and limits the coefficient to the precision, and makes zero positive. -/
def negate : Decimal → Except Fault Decimal
  | infinite negative => .ok (infinite (!negative))
  | finite negative coefficient exponent =>
      round (finite (coefficient != 0 && !negative) coefficient exponent)

/-- This function subtracts the second number, which is not rounded itself. -/
def subtract (left right : Decimal) : Except Fault Decimal :=
  match right with
  | infinite negative => left.add (infinite (!negative))
  | finite negative coefficient exponent => left.add (finite (!negative) coefficient exponent)

def isZero : Decimal → Bool
  | finite _ coefficient _ => coefficient == 0
  | infinite _ => false

def isNegative : Decimal → Bool
  | finite negative _ _ => negative
  | infinite negative => negative

/-- This function multiplies two numbers, and zero times infinity is a fault. -/
def multiply (left right : Decimal) : Except Fault Decimal :=
  let negative := left.isNegative != right.isNegative
  match left, right with
  | finite _ first firstExponent, finite _ second secondExponent =>
      round (finite negative (first * second) (firstExponent + secondExponent))
  | _, _ =>
      if left.isZero || right.isZero then .error .decimalInvalid else .ok (infinite negative)

/-- This function takes zeros off a coefficient until its exponent reaches a preferred one. -/
def stripTowards (preferred : Int) (coefficient : Nat) (exponent : Int) : Nat × Int :=
  if coefficient ≠ 0 ∧ coefficient % 10 = 0 ∧ exponent < preferred then
    stripTowards preferred (coefficient / 10) (exponent + 1)
  else (coefficient, exponent)
termination_by coefficient
decreasing_by omega

/-- This function divides two finite numbers that are not zero. -/
def divideFinite (negative : Bool) (first second : Nat) (preferred : Int) : Except Fault Decimal :=
  -- One digit more than the precision is computed.
  let places : Int := (digitCount second : Int) - digitCount first + precision + 1
  let numerator := first * tenTo places.toNat
  let denominator := second * tenTo (-places).toNat
  let quotient := numerator / denominator
  if numerator % denominator = 0 then
    -- A quotient that ends is written as short as the exponents of the operands allow.
    let (coefficient, exponent) := stripTowards preferred quotient (preferred - places)
    round (finite negative coefficient exponent)
  else
    -- A quotient that goes on is never left at a tie or at a shorter number, so rounding it once is right.
    let marked := if quotient % 5 = 0 then quotient + 1 else quotient
    round (finite negative marked (preferred - places))

/-- This function divides two numbers. -/
def divide (left right : Decimal) : Except Fault Decimal :=
  let negative := left.isNegative != right.isNegative
  match left, right with
  | infinite _, infinite _ => .error .decimalInvalid
  | infinite _, finite _ _ _ => .ok (infinite negative)
  | finite _ _ _, infinite _ => .ok (finite negative 0 smallestExponent)
  | finite _ first firstExponent, finite _ second secondExponent =>
      let preferred := firstExponent - secondExponent
      if second = 0 then
        .error (if first = 0 then .decimalDivisionUndefined else .decimalDivisionByZero)
      else if first = 0 then round (finite negative 0 preferred)
      else divideFinite negative first second preferred

/-- This function multiplies by a power of ten. -/
def scale (power : Int) (decimal : Decimal) : Except Fault Decimal :=
  if largestScale < power.natAbs then .error .decimalInvalid
  else
    match decimal with
    | infinite negative => .ok (infinite negative)
    | finite negative coefficient exponent =>
        round (finite negative coefficient (exponent + power))

/-- This function gives the nearest double. -/
def toDouble : Decimal → Double
  | infinite negative => .infinite negative
  | finite negative coefficient exponent => .ofDecimal negative coefficient exponent

def ofInt (number : Int) : Decimal :=
  finite (decide (number < 0)) number.natAbs 0

/-- This function gives the shortest decimal that reads back as a double, and none for what is not a number. -/
def ofDouble? : Double → Option Decimal
  | .notANumber => none
  | .infinite negative => some (infinite negative)
  | .finite negative index =>
      if index.val = 0 then some (finite negative 0 (-1))
      else
        let decimal := Scientific.shortest index.val
        some (finite negative decimal.digits decimal.exponent)

/-- Numbers with this many zeros after the point are still written without an exponent. -/
def smallestPositional : Int := -6

/-- This function writes the power of ten that stands behind the digits. -/
def exponentText (exponent : Int) : Text :=
  Text.concat ["E", if exponent < 0 then "-" else "+", Text.ofNat exponent.natAbs]

/-- This function writes digits with a point after some of them, or without a point if it would
stand at the end. -/
def pointed (digits : Text) (point : Int) : Text :=
  if point ≤ 0 then Text.concat ["0.", Double.zeros (-point).toNat, digits]
  else if digits.length ≤ point.toNat then digits
  else Text.concat [digits.take point.toNat, ".", digits.drop point.toNat]

/-- This function writes the magnitude of a finite number and keeps all its digits. -/
def magnitudeText (coefficient : Nat) (exponent : Int) : Text :=
  let digits := Text.ofNat coefficient
  let leading := exponent + digits.length - 1
  if exponent ≤ 0 ∧ smallestPositional ≤ leading then pointed digits (leading + 1)
  else if leading = 0 then pointed digits 1
  else pointed digits 1 ++ exponentText leading

/-- This function writes a decimal number. -/
def text : Decimal → Text
  | finite negative coefficient exponent =>
      Text.concat [if negative then "-" else "", magnitudeText coefficient exponent]
  | infinite negative => if negative then "-Infinity" else "Infinity"

end Decimal

end ParserAlgebra
