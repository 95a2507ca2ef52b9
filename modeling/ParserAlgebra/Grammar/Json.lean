import ParserAlgebra.Association
import ParserAlgebra.Number.Basic
import ParserAlgebra.Parser.Lexeme
import ParserAlgebra.Parser.Numeral
import ParserAlgebra.Parser.Recursion
import ParserAlgebra.Run

namespace ParserAlgebra

/-- A JSON value, whose objects have distinct keys in order of first arrival. -/
inductive Json where
  | null
  | boolean (value : Bool)
  | number (value : Number)
  | text (value : Text)
  | array (elements : List Json)
  | object (members : List (Text × Json))

namespace Json

open ParserAlgebra.Parser

/-- This parser reads a keyword. -/
def keyword (word : Text) (value : Json) : Parser Json :=
  (string word).map fun _ => value

/-- This function scales a number by a power of ten, as the decimal that it is written as. -/
def scaleNumber (mantissa : Number) (exponent : Int) : Except Fault Number :=
  let decimal? := match mantissa with
    | .integer value => some (Decimal.ofInt value)
    | .real value => Decimal.ofDouble? value
  match decimal? with
  | none => .ok mantissa
  | some decimal =>
      match decimal.scale exponent with
      | .error fault => .error fault
      | .ok scaled => .ok (.real scaled.toDouble)

/-- This function makes a number of its parts, and leaves the mantissa as it is if there is no exponent. -/
def makeNumber (sign : Option Text) (mantissa : Number) (exponent : Option Int) :
    Except Fault Number :=
  let signedMantissa := if sign.isSome then mantissa.negate else mantissa
  match exponent with
  | none => .ok signedMantissa
  | some exponent => scaleNumber signedMantissa exponent

/-- This parser reads the exponent of a number. -/
def exponentPart : Parser Int :=
  (((succeed fun (sign : Option Text) (digits : Nat) =>
    if sign = some "-" then -(digits : Int) else digits).drop
    (oneOf [string "e", string "E"])).keep
    (oneOf [string "+", string "-"]).optional).keep integerNumber

/-- This parser reads a number without sign and exponent, which is a double if it has a fraction. -/
def mantissaPart : Parser Number :=
  oneOf [realNumber.transform Number.real,
    integerNumber.transform fun (value : Nat) => Number.integer value]

/-- This parser reads a number. -/
def numberParser : Parser Number :=
  ((((succeed makeNumber).keep (string "-").optional).keep mantissaPart).keep
    exponentPart.optional).raising

/-- This parser reads the elements of an array between brackets. -/
def arrayParser (element : Parser Json) : Parser (List Json) :=
  ((((succeed fun elements => elements).drop (string "[")).keep
    (many (token element) (string ","))).drop whitespace).drop (string "]")

/-- This parser reads a key and its value. -/
def memberParser (element : Parser Json) : Parser (Text × Json) :=
  (((((succeed fun key value => (key, value)).drop whitespace).keep standardString).drop
    whitespace).drop (string ":")).keep (token element)

/-- This parser reads the members of an object between braces. -/
def objectParser (element : Parser Json) : Parser (List (Text × Json)) :=
  ((((succeed Association.ofPairs).drop (string "\x7b")).keep
    (many (memberParser element) (string ","))).drop whitespace).drop (string "\x7d")

/-- This function gives the parser of a value, with a parser for the values inside it. -/
def valueBody (element : Parser Json) : Parser Json :=
  oneOf [(objectParser element).transform object, (arrayParser element).transform array,
    standardString.transform text, numberParser.transform number,
    keyword "true" (boolean true), keyword "false" (boolean false), keyword "null" null]

/-- This parser reads a value without whitespace around it. -/
def valueParser : Parser Json :=
  fix valueBody

/-- This parser calls the parser of values when it runs. -/
def delayedValue : Parser Json :=
  delayed valueParser.step

/-- This parser reads a value that spans the whole input. -/
def document : Parser Json :=
  (token valueParser).drop endOfFile

/-- This function decodes a document. -/
def decode (source : Text) : Logged (Verdict Json) := do
  Logged.tell .json (Text.concat ["Decoding ", Text.ofNat source.length, " characters of JSON"])
  run source document

/-- This function decodes a document and raises its failure. -/
def load (source : Text) : Logged (Except Raised Json) :=
  runOrRaise source document

end Json

end ParserAlgebra
