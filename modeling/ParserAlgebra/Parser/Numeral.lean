import ParserAlgebra.Number.Double
import ParserAlgebra.Parser.Character
import ParserAlgebra.Text.Numeral

namespace ParserAlgebra

/-- Numerals of integers have at most this many digits, leading zeros included. -/
def integerDigitLimit : Nat := 4300

/-- This function reads an integer off its digits, which are all that the failure of a long numeral shows. -/
def readInteger (digits : Text) : Except Failure Nat :=
  if digits.length ≤ integerDigitLimit then .ok (numeralValue digits)
  else .error (.unexpected digits)

/-- This function reads a double off any number of digits before and after the point. -/
def readReal (whole fraction : Text) : Double :=
  Double.ofDecimal false (numeralValue (whole ++ fraction)) (-(fraction.length : Int))

namespace Parser

/-- This parser consumes a run of decimal digits. -/
def digits : Parser Text :=
  takeIfAndWhile isDigit

/-- This parser reads an integer without a sign. -/
def integerNumber : Parser Nat :=
  (digits.andThen fun numeral => fromResult (readInteger numeral)).rename (some "integer_number")

theorem parse_integerNumber (source : Text) :
    integerNumber.parse source =
      (digits.parse source).andThen fun numeral rest => (fromResult (readInteger numeral)).parse rest :=
  parse_andThen digits _ source

/-- This parser reads digits, a point and digits. -/
def realNumber : Parser Double :=
  ((((succeed readReal).keep digits).drop (string ".")).keep digits).rename (some "float_number")

end Parser

end ParserAlgebra
