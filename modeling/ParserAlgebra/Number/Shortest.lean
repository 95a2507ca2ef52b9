import ParserAlgebra.Number.Double
import ParserAlgebra.Text.Numeral

namespace ParserAlgebra

/-- A decimal magnitude: digits times a power of ten. -/
structure Scientific where
  digits : Nat
  exponent : Int
  deriving DecidableEq

namespace Scientific

/-- This function moves trailing zeros of the digits into the exponent. -/
def stripZeros (digits : Nat) (exponent : Int) : Scientific :=
  if digits ≠ 0 ∧ digits % 10 = 0 then stripZeros (digits / 10) (exponent + 1)
  else ⟨digits, exponent⟩
termination_by digits
decreasing_by omega

/-- This test says whether a decimal is read as the magnitude with the index. -/
def readsBack (index digits : Nat) (exponent : Int) : Bool :=
  Double.ofDecimal false digits exponent = Double.ofIndex false index

/-- This function gives a multiple of a power of ten next to a magnitude that reads back, the nearer of two and the
even one in a tie. -/
def neighbour (index : Nat) (exponent : Int) : Option Nat :=
  let numerator := Double.units index * tenTo (-exponent).toNat
  let denominator := Double.unitsInOne * tenTo exponent.toNat
  let lower := numerator / denominator
  let nearest := roundQuotient numerator denominator
  let other := if nearest = lower then lower + 1 else lower
  if readsBack index nearest exponent then some nearest
  else if readsBack index other exponent then some other
  else none

/-- This function gives the least power of ten above a positive magnitude. -/
def ceilingExponent (index : Nat) : Int :=
  -- Enough places make the magnitude a whole number above zero, whose digits are counted.
  (digitCount (Double.units index * tenTo 400 / Double.unitsInOne) : Int) - 400

/-- This function gives the exact decimal value of a magnitude. -/
def exact (index : Nat) : Scientific :=
  ⟨Double.units index * Nat.pow 5 1074, -1074⟩

/-- This function looks for the shortest decimal that reads back, from a number of digits on. -/
def search (index : Nat) (top : Int) : Nat → Nat → Scientific
  | 0, _ => exact index
  | fuel + 1, count =>
      match neighbour index (top - count) with
      | some digits => ⟨digits, top - count⟩
      | none => search index top fuel (count + 1)

/-- This function gives the shortest decimal that reads back as a positive magnitude, and the
nearest of that length. -/
def shortest (index : Nat) : Scientific :=
  let found := search index (ceilingExponent index) 17 1
  stripZeros found.digits found.exponent

end Scientific

namespace Double

/-- Numbers are written positionally from this power of ten of the leading digit on. -/
def positionalFrom : Int := -4

/-- Numbers are written with an exponent from this power of ten of the leading digit on. -/
def positionalBelow : Int := 16

def zeros (count : Nat) : Text :=
  List.replicate count (CodePoint.scalar '0')

/-- This function writes digits with a point that has a digit on both sides. -/
def positional (digits : Text) (point : Int) : Text :=
  if point ≤ 0 then Text.concat ["0.", zeros (-point).toNat, digits]
  else if digits.length ≤ point.toNat then
    Text.concat [digits, zeros (point.toNat - digits.length), ".0"]
  else Text.concat [digits.take point.toNat, ".", digits.drop point.toNat]

/-- This function writes an exponent with its sign and at least two digits. -/
def exponentText (exponent : Int) : Text :=
  let digits := Text.ofNat exponent.natAbs
  Text.concat
    [if exponent < 0 then "-" else "+", if digits.length < 2 then "0" else "", digits]

/-- This function writes digits with a point after the first one and an exponent. -/
def exponential (digits : Text) (exponent : Int) : Text :=
  Text.concat
    [digits.take 1, if digits.length ≤ 1 then "" else ".", digits.drop 1, "e",
      exponentText exponent]

/-- This function writes a positive magnitude. -/
def magnitudeText (index : Nat) : Text :=
  let decimal := Scientific.shortest index
  let digits := Text.ofNat decimal.digits
  let leading := decimal.exponent + digits.length - 1
  if positionalFrom ≤ leading ∧ leading < positionalBelow then positional digits (leading + 1)
  else exponential digits leading

/-- This function writes a double, with a point or an exponent if it is finite. -/
def text : Double → Text
  | finite negative index =>
      Text.concat [if negative then "-" else "",
        if index.val = 0 then "0.0" else magnitudeText index.val]
  | infinite negative => if negative then "-inf" else "inf"
  | notANumber => "nan"

end Double

end ParserAlgebra
