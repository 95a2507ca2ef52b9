import ParserAlgebra.Number.Decimal
import ParserAlgebra.Text.CharacterClass

namespace ParserAlgebra

/-- This function splits a sign off a numeral and says whether it is a minus. -/
def splitSign : Text → Bool × Text
  | [] => (false, [])
  | point :: rest =>
      if point = CodePoint.scalar '-' then (true, rest)
      else if point = CodePoint.scalar '+' then (false, rest)
      else (false, point :: rest)

/-- This function reads an integer with an optional sign. -/
def integerOfText? (text : Text) : Option Int :=
  let (negative, digits) := splitSign text
  if digits.isEmpty || !digits.all isDigit then none
  else if negative then some (-(numeralValue digits : Int))
  else some (numeralValue digits)

/-- This function reads the exponent behind a mantissa, which is zero if nothing stands there. -/
def exponentOfText? : Text → Option Int
  | [] => some 0
  | mark :: rest =>
      if mark = CodePoint.scalar 'e' ∨ mark = CodePoint.scalar 'E' then integerOfText? rest
      else none

/-- This function reads the digits behind a point, if one stands there, and gives what follows them. -/
def splitFraction : Text → Text × Text
  | [] => ([], [])
  | mark :: rest =>
      if mark = CodePoint.scalar '.' then (rest.takeWhile isDigit, rest.dropWhile isDigit)
      else ([], mark :: rest)

/-- This function reads a decimal number and keeps all its digits. -/
def Decimal.ofText? (text : Text) : Option Decimal :=
  let (negative, body) := splitSign text
  if body = "Infinity" ∨ body = "inf" then some (.infinite negative)
  else
    let whole := body.takeWhile isDigit
    let (places, rest) := splitFraction (body.dropWhile isDigit)
    if (whole ++ places).isEmpty then none
    else
      match exponentOfText? rest with
      | none => none
      | some exponent =>
          some (.finite negative (numeralValue (whole ++ places)) (exponent - places.length))

/-- This function reads a double and rounds once. -/
def Double.ofText? (text : Text) : Option Double :=
  if text = "nan" then some .notANumber else (Decimal.ofText? text).map Decimal.toDouble

end ParserAlgebra
