import ParserAlgebra.Text.Numeral

namespace ParserAlgebra

/-- This function rounds a quotient to the nearest natural number, and a tie to the even neighbour. -/
def roundQuotient (numerator denominator : Nat) : Nat :=
  let quotient := numerator / denominator
  let remainder := numerator % denominator
  if 2 * remainder < denominator then quotient
  else if denominator < 2 * remainder then quotient + 1
  else quotient + quotient % 2

/-- This function gives the largest power of two that is at most the quotient of two positive numbers. -/
def quotientLog (numerator denominator : Nat) : Int :=
  let guess : Int := (numerator.log2 : Int) - (denominator.log2 : Int)
  if denominator * twoTo guess.toNat ≤ numerator * twoTo (-guess).toNat then guess else guess - 1

/-- The number of finite magnitudes of double precision. -/
def magnitudeCount : Nat := 2047 * twoTo 52

/-- A double precision number, whose finite magnitudes are numbered from zero in ascending order. -/
inductive Double where
  -- The index of a magnitude is even exactly if its significand is.
  | finite (negative : Bool) (index : Fin magnitudeCount)
  | infinite (negative : Bool)
  | notANumber
  deriving DecidableEq

namespace Double

/-- This function gives the significand of a magnitude. -/
def significand (index : Nat) : Nat :=
  if index < twoTo 52 then index else twoTo 52 + index % twoTo 52

/-- This function gives how far the significand of a magnitude is shifted, counted from the
smallest magnitude. -/
def shift (index : Nat) : Nat :=
  index / twoTo 52 - 1

/-- This function gives a magnitude as a multiple of the smallest positive one. -/
def units (index : Nat) : Nat :=
  significand index * twoTo (shift index)

/-- The number of smallest positive magnitudes in one. -/
def unitsInOne : Nat := twoTo 1074

/-- This function gives the number with a sign and a magnitude, which is infinite past the largest one. -/
def ofIndex (negative : Bool) (index : Nat) : Double :=
  if inRange : index < magnitudeCount then finite negative ⟨index, inRange⟩
  else infinite negative

def zero (negative : Bool) : Double :=
  ofIndex negative 0

/-- This function rounds a quotient of natural numbers to the nearest magnitude, a tie to the even
one. -/
def ofQuotient (negative : Bool) (numerator denominator : Nat) : Double :=
  if numerator = 0 then zero negative
  else
    let shifted := (quotientLog numerator denominator - 52 + 1074).toNat
    let rounded := roundQuotient (numerator * unitsInOne) (denominator * twoTo shifted)
    ofIndex negative (shifted * twoTo 52 + rounded)

/-- This function rounds an integer. -/
def ofInt (number : Int) : Double :=
  ofQuotient (decide (number < 0)) number.natAbs 1

/-- This function rounds a decimal number, given by its digits and a power of ten. -/
def ofDecimal (negative : Bool) (coefficient : Nat) (exponent : Int) : Double :=
  ofQuotient negative (coefficient * tenTo exponent.toNat) (tenTo (-exponent).toNat)

def isInfinite : Double → Bool
  | infinite _ => true
  | _ => false

/-- Both zeros are zero. -/
def isZero : Double → Bool
  | finite _ index => index.val == 0
  | _ => false

def negate : Double → Double
  | finite negative index => finite (!negative) index
  | infinite negative => infinite (!negative)
  | notANumber => notANumber

/-- This function gives a finite number as a signed multiple of the smallest magnitude. -/
def signedUnits (negative : Bool) (index : Nat) : Int :=
  if negative then -(units index : Int) else units index

/-- This function adds two numbers. -/
def add : Double → Double → Double
  | notANumber, _ => notANumber
  | _, notANumber => notANumber
  | infinite first, infinite second => if first = second then infinite first else notANumber
  | infinite first, finite _ _ => infinite first
  | finite _ _, infinite second => infinite second
  | finite first left, finite second right =>
      let sum := signedUnits first left.val + signedUnits second right.val
      -- An exact sum of zero is positive unless both numbers are negative.
      if sum = 0 then zero (first && second)
      else ofQuotient (decide (sum < 0)) sum.natAbs unitsInOne

def subtract (left right : Double) : Double :=
  add left right.negate

/-- This function multiplies two numbers, and zero times infinity is not a number. -/
def multiply : Double → Double → Double
  | notANumber, _ => notANumber
  | _, notANumber => notANumber
  | infinite first, infinite second => infinite (first != second)
  | infinite first, finite second right =>
      if right.val = 0 then notANumber else infinite (first != second)
  | finite first left, infinite second =>
      if left.val = 0 then notANumber else infinite (first != second)
  | finite first left, finite second right =>
      ofQuotient (first != second) (units left.val * units right.val) (unitsInOne * unitsInOne)

/-- This function divides by a number that is not zero. -/
def divide : Double → Double → Double
  | notANumber, _ => notANumber
  | _, notANumber => notANumber
  | infinite _, infinite _ => notANumber
  | infinite first, finite second _ => infinite (first != second)
  | finite first _, infinite second => zero (first != second)
  | finite first left, finite second right =>
      ofQuotient (first != second) (units left.val) (units right.val)

end Double

end ParserAlgebra
