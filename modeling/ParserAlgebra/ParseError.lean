import ParserAlgebra.Failure

namespace ParserAlgebra

/-- The line and column of an offset in a source, both counted from one. -/
structure Location where
  line : Nat
  column : Nat
  deriving DecidableEq

namespace Location

def isNewline (point : CodePoint) : Bool :=
  point == CodePoint.scalar '\n'

/-- This function gives the offset at which the line of a position starts. -/
def lineStart (source : Text) (position : Nat) : Nat :=
  let before := source.take position
  before.length - (before.reverse.takeWhile fun point => !isNewline point).length

/-- This function locates an offset, which belongs to the last line if it is past the end. -/
def locate (source : Text) (position : Nat) : Location where
  line := (source.take position).countP isNewline + 1
  column := position - lineStart source position + 1

end Location

/-- The part of a line around a position. -/
structure LineExcerpt where
  before : Text
  after : Text
  deriving DecidableEq

namespace LineExcerpt

/-- This function gives the rest of the line at a position, without carriage returns at its
end. -/
def lineRest (source : Text) (position : Nat) : Text :=
  Text.dropEndWhile (fun point => point == CodePoint.scalar '\r')
    ((source.drop position).takeWhile fun point => !Location.isNewline point)

/-- This function cuts out the line around a position, up to the length of an excerpt on each side. -/
def around (source : Text) (position : Nat) : LineExcerpt where
  before := (source.take position).drop
    (max (Location.lineStart source position) (position - excerptLength))
  -- Three dots at the end are dropped, whether they mark a cut or stand in the source.
  after := Text.dropEnding "..." (lineRest source position).excerpt

end LineExcerpt

/-- This function writes the note for a position: where it is, the line around it, and a caret
under it. -/
def positionNote (source : Text) (position : Nat) : Text :=
  let location := Location.locate source position
  let excerpt := LineExcerpt.around source position
  Text.concat
    ["At position ", Text.ofNat position, " (line ", Text.ofNat location.line, ", column ",
      Text.ofNat location.column, ")\n", excerpt.before, excerpt.after, "\n",
      List.replicate excerpt.before.length (CodePoint.scalar ' '), "^"]

/-- The error of a run whose failure was not handled. -/
structure ParseError where
  source : Text
  failure : Failure
  message : Text
  notes : List Text

namespace ParseError

/-- This function adds the note for a position. -/
def addPositionNote (position : Nat) (error : ParseError) : ParseError :=
  { error with notes := error.notes ++ [positionNote error.source position] }

/-- This function adds notes one by one and lists the errors that arise, from the first one on. -/
def annotate (error : ParseError) : List Nat → List ParseError
  | [] => [error]
  | position :: positions => error :: annotate (error.addPositionNote position) positions

/-- This function makes the error of a failure, with one note if the position of the failure is known. -/
def ofFailure (source : Text) (failure : Failure) : Except Fault ParseError :=
  match failure.describe with
  | .error fault => .error fault
  | .ok message =>
      let error : ParseError := ⟨source, failure, message, []⟩
      match failure.position source with
      | none => .ok error
      | some position => .ok (error.addPositionNote position)

/-- The error of a failure with a known position has one note. -/
theorem ofFailure_placed {source message : Text} {failure : Failure} {position : Nat}
    (described : failure.describe = .ok message) (placed : failure.position source = some position) :
    ofFailure source failure = .ok ⟨source, failure, message, [positionNote source position]⟩ := by
  simp [ofFailure, described, placed, addPositionNote]

end ParseError

end ParserAlgebra
