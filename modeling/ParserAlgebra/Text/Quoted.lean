import ParserAlgebra.Text.Numeral
import ParserAlgebra.Text.Printable

namespace ParserAlgebra

namespace Text

/-- This function writes a code point that cannot be shown by its number, in the shortest of
three widths. -/
def numberEscape (point : CodePoint) : Text :=
  let number := point.toNat
  if number < 0x100 then ("\\x" : Text) ++ ofNatHexadecimal 2 number
  else if number < 0x10000 then ("\\u" : Text) ++ ofNatHexadecimal 4 number
  else ("\\U" : Text) ++ ofNatHexadecimal 8 number

/-- This function writes one code point between the given quotes. -/
def escapePoint (quote point : CodePoint) : Text :=
  if point = quote ∨ point = CodePoint.scalar '\\' then [CodePoint.scalar '\\', point]
  else if point = CodePoint.scalar '\n' then "\\n"
  else if point = CodePoint.scalar '\r' then "\\r"
  else if point = CodePoint.scalar '\t' then "\\t"
  else if point.isPrintable then [point]
  else numberEscape point

/-- Single quotes are used, unless the text has a single quote and no double quote. -/
def quoteMark (text : Text) : CodePoint :=
  if text.contains (CodePoint.scalar '\x27') && !text.contains (CodePoint.scalar '"') then
    CodePoint.scalar '"'
  else
    CodePoint.scalar '\x27'

/-- This function writes a text between quotes. -/
def quoted (text : Text) : Text :=
  let quote := quoteMark text
  quote :: text.flatMap (escapePoint quote) ++ [quote]

end Text

end ParserAlgebra
