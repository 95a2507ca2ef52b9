import ParserAlgebra.Text.Basic

namespace ParserAlgebra

/-- A named class of code points. -/
inductive CharacterClass where
  | digit
  | space
  | whitespace
  | hexadecimal
  | identifierStart
  | identifierPart
  deriving DecidableEq

namespace CharacterClass

/-- Blanks on one line. -/
def spaces : Text := " "

/-- Blanks in ascending order, without the carriage return. -/
def whitespaces : Text := "\t\n "

def decimalDigits : Text := "0123456789"

def hexadecimalDigits : Text := "0123456789ABCDEFabcdef"

def uppercaseLetters : Text := "ABCDEFGHIJKLMNOPQRSTUVWXYZ"

/-- The letters of the basic alphabet in both cases. -/
def letters : Text := "ABCDEFGHIJKLMNOPQRSTUVWXYZabcdefghijklmnopqrstuvwxyz"

def lettersAndDigits : Text :=
  "0123456789ABCDEFGHIJKLMNOPQRSTUVWXYZabcdefghijklmnopqrstuvwxyz"

end CharacterClass

def isDigit (point : CodePoint) : Bool :=
  CharacterClass.decimalDigits.contains point

def isSpace (point : CodePoint) : Bool :=
  CharacterClass.spaces.contains point

def isWhitespace (point : CodePoint) : Bool :=
  CharacterClass.whitespaces.contains point

def isHexadecimal (point : CodePoint) : Bool :=
  CharacterClass.hexadecimalDigits.contains point

def isUppercase (point : CodePoint) : Bool :=
  CharacterClass.uppercaseLetters.contains point

/-- An identifier starts with a letter or an underscore. -/
def isIdentifierStart (point : CodePoint) : Bool :=
  CharacterClass.letters.contains point || point == CodePoint.scalar '_'

/-- An identifier goes on with letters, digits and underscores. -/
def isIdentifierPart (point : CodePoint) : Bool :=
  CharacterClass.lettersAndDigits.contains point || point == CodePoint.scalar '_'

namespace CharacterClass

/-- This function gives the test of a class. -/
def test : CharacterClass → CodePoint → Bool
  | digit => isDigit
  | space => isSpace
  | whitespace => isWhitespace
  | hexadecimal => isHexadecimal
  | identifierStart => isIdentifierStart
  | identifierPart => isIdentifierPart

/-- A class accepts a text if it is a single code point of the class. -/
def accepts (characterClass : CharacterClass) : Text → Bool
  | [point] => characterClass.test point
  | _ => false

/-- Every class, in the order in which reports name them. -/
def all : List CharacterClass :=
  [digit, space, whitespace, hexadecimal, identifierStart, identifierPart]

/-- This function lists the classes that accept a text. -/
def accepting (text : Text) : List CharacterClass :=
  all.filter fun characterClass => characterClass.accepts text

end CharacterClass

end ParserAlgebra
