import ParserAlgebra.Parser.Character
import ParserAlgebra.Parser.Repetition

namespace ParserAlgebra

/-- The escapes of a quoted string, with what they stand for. -/
abbrev EscapeTable := List (Text × Text)

/-- The escapes of a quoted string in a JSON document. -/
def standardEscapes : EscapeTable :=
  [("\"", "\""), ("\\", "\\"), ("/", "/"), ("b", "\x08"), ("f", "\x0c"), ("n", "\n"),
    ("r", "\r"), ("t", "\t")]

def standardQuote : Text := "\""

def standardEscape : Text := "\\"

namespace Parser

variable {α : Type}

/-- This combinator skips whitespace on both sides. -/
def token (parser : Parser α) : Parser α :=
  (((succeed fun value => value).drop whitespace).keep parser).drop whitespace

/-- This parser consumes a literal with whitespace around it. -/
def symbol (literal : Text) : Parser Text :=
  token (string literal)

/-- This combinator reads an optional minus sign before a number. -/
def signed (negate : α → α) (parser : Parser α) : Parser α :=
  ((succeed fun (sign : Option Text) number => if sign.isSome then negate number else number).keep
    (string "-").optional).keep parser

/-- This parser reads an identifier. -/
def identifier : Parser Text :=
  map2 (fun point points => point :: points) (takeIf isIdentifierStart)
    (takeWhile isIdentifierPart)

def hexadecimalDigit : Parser CodePoint :=
  takeIf isHexadecimal

/-- This parser reads a letter and four hexadecimal digits that number a code point. -/
def unicodeEscape : Parser Text :=
  (((((succeed fun first second third fourth =>
    [CodePoint.ofNat (hexadecimalValue [first, second, third, fourth])]).drop (string "u")).keep
    hexadecimalDigit).keep hexadecimalDigit).keep hexadecimalDigit).keep hexadecimalDigit

/-- This parser reads the escape mark and an escape of the table, in order, or else a numbered escape. -/
def escapeSequence (escapes : EscapeTable) (escape : Text) : Parser Text :=
  ((succeed fun meaning => meaning).drop (string escape)).keep
    (oneOf ((escapes.map fun entry => (string entry.1).map fun _ => entry.2) ++ [unicodeEscape]))

/-- This test accepts what stands for itself in a quoted string. -/
def isPlain (quote escape : Text) (point : CodePoint) : Bool :=
  [point] != quote && [point] != escape

/-- This parser reads a string between quotes and replaces the escapes. -/
def quotedString (quote escape : Text) (escapes : EscapeTable) : Parser Text :=
  let content := many (oneOf [escapeSequence escapes escape, takeIfAndWhile (isPlain quote escape)])
    (succeed ())
  (((succeed Text.concat).drop (string quote)).keep content).drop (string quote)

/-- This parser reads a string in double quotes with the standard escapes. -/
def standardString : Parser Text :=
  quotedString standardQuote standardEscape standardEscapes

end Parser

end ParserAlgebra
