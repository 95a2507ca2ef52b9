import ParserAlgebra.Number.Decimal

namespace ParserAlgebra

/-- A number is an integer of any size or a double. -/
inductive Number where
  | integer (value : Int)
  | real (value : Double)
  deriving DecidableEq

namespace Number

/-- This function converts a number to a double, and an integer past the largest double is a fault. -/
def toDouble : Number → Except Fault Double
  | integer value =>
      let converted := Double.ofInt value
      if converted.isInfinite then .error .integerTooLarge else .ok converted
  | real value => .ok value

/-- This function applies an operation of integers to two integers, and one of doubles to all other operands. -/
def combine (onIntegers : Int → Int → Except Fault Number)
    (onReals : Double → Double → Except Fault Number) : Number → Number → Except Fault Number
  | integer left, integer right => onIntegers left right
  | left, right => do
      let leftReal ← left.toDouble
      let rightReal ← right.toDouble
      onReals leftReal rightReal

def add : Number → Number → Except Fault Number :=
  combine (fun left right => .ok (integer (left + right)))
    (fun left right => .ok (real (left.add right)))

def subtract : Number → Number → Except Fault Number :=
  combine (fun left right => .ok (integer (left - right)))
    (fun left right => .ok (real (left.subtract right)))

def multiply : Number → Number → Except Fault Number :=
  combine (fun left right => .ok (integer (left * right)))
    (fun left right => .ok (real (left.multiply right)))

/-- This function divides two integers and rounds once, with a sign from both operands also for a zero quotient. -/
def divideIntegers (left right : Int) : Except Fault Number :=
  if right = 0 then .error .divisionByZero
  else
    let quotient := Double.ofQuotient (decide (left < 0) != decide (right < 0))
      left.natAbs right.natAbs
    if quotient.isInfinite then .error .quotientTooLarge else .ok (real quotient)

/-- This function divides two doubles, and division by either zero is a fault. -/
def divideReals (left right : Double) : Except Fault Number :=
  if right.isZero then .error .realDivisionByZero else .ok (real (left.divide right))

def divide : Number → Number → Except Fault Number :=
  combine divideIntegers divideReals

def negate : Number → Number
  | integer value => integer (-value)
  | real value => real value.negate

end Number

end ParserAlgebra
