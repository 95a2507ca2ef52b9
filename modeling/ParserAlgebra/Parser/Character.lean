import ParserAlgebra.Parser.Basic
import ParserAlgebra.Text.CharacterClass

namespace ParserAlgebra.Parser

/-- This parser consumes one code point. -/
def anyPoint : Parser CodePoint :=
  ofOutcome "any_char" fun
    | [] => .failure .endOfInput
    | point :: rest => .success point rest

/-- This parser succeeds at the end of the input only. -/
def endOfFile : Parser Unit :=
  ofOutcome "eof" fun source =>
    if source.isEmpty then .success () source else .failure (.expected "end of file" source)

/-- The end of the input is found where nothing is left. -/
theorem parse_endOfFile_eq_success {source rest : Text} {value : Unit} :
    endOfFile.parse source = .success value rest ↔ source = [] ∧ rest = [] := by
  cases source with
  | nil =>
      constructor
      · intro parsed
        cases parsed
        exact ⟨rfl, rfl⟩
      · rintro ⟨-, rfl⟩
        rfl
  | cons point points => simp [endOfFile]

/-- This function gives the failure of a literal. -/
def literalFailure (literal source : Text) : Failure :=
  .expected (Text.concat ["starts with '", literal, "'"]) source

/-- This parser consumes exactly the literal. -/
def string (literal : Text) : Parser Text :=
  ofOutcome (Text.concat ["string(", literal.quoted, ")"]) fun source =>
    if literal.isPrefixOf source then .success literal (source.drop literal.length)
    else .failure (literalFailure literal source)

theorem parse_string (literal source : Text) :
    (string literal).parse source =
      if literal.isPrefixOf source then .success literal (source.drop literal.length)
      else .failure (literalFailure literal source) := rfl

/-- This parser consumes one code point that passes the test. -/
def takeIf (test : CodePoint → Bool) : Parser CodePoint :=
  ofOutcome "take_if" fun
    | [] => .failure .endOfInput
    | point :: rest =>
        if test point then .success point rest else .failure (.unexpected (point :: rest))

/-- This parser consumes code points as long as they pass the test. -/
def takeWhile (test : CodePoint → Bool) : Parser Text :=
  ofOutcome "take_while" fun source =>
    .success (source.takeWhile test) (source.dropWhile test)

/-- This parser consumes one or more code points that pass the test. -/
def takeIfAndWhile (test : CodePoint → Bool) : Parser Text :=
  (map2 (fun point points => point :: points) (takeIf test) (takeWhile test)).rename
    (some "take_if_and_while")

/-- One or more code points are read as the longest run that passes the test. -/
theorem parse_takeIfAndWhile (test : CodePoint → Bool) (source : Text) :
    (takeIfAndWhile test).parse source =
      match source with
      | [] => .failure .endOfInput
      | point :: rest =>
          if test point then .success (source.takeWhile test) (source.dropWhile test)
          else .failure (.unexpected (point :: rest)) := by
  cases source with
  | nil => rfl
  | cons point rest =>
      simp only [takeIfAndWhile, parse_rename, parse_map2, takeIf, takeWhile, parse_ofOutcome]
      split <;> rename_i accepted <;> simp [accepted]

/-- This parser skips spaces. -/
def spaces : Parser Unit :=
  ((takeWhile isSpace).map fun _ => ()).rename (some "spaces")

@[simp] theorem parse_spaces (source : Text) :
    spaces.parse source = .success () (source.dropWhile isSpace) := rfl

/-- This parser skips spaces, tabs and newlines. -/
def whitespace : Parser Unit :=
  ((takeWhile isWhitespace).map fun _ => ()).rename (some "whitespace")

@[simp] theorem parse_whitespace (source : Text) :
    whitespace.parse source = .success () (source.dropWhile isWhitespace) := rfl

end ParserAlgebra.Parser
