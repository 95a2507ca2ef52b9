import ParserAlgebra.Value.Equality
import ParserAlgebra.Value.Representation

namespace ParserAlgebra

/-- The result of a run is a value, the result of a step is a value with the rest of the input,
and both may be a failure. -/
inductive Result where
  | ok (value : Value)
  | success (value : Value) (rest : Text)
  | failure (reason : Failure)

namespace Result

/-- A result counts as true unless it is a failure. -/
def succeeded : Result → Bool
  | ok _ => true
  | success _ _ => true
  | failure _ => false

/-- Results of different kinds are never equal. -/
def equal : Result → Result → Bool
  | ok first, ok second => first == second
  | success first rest, success second other => first == second && rest == other
  | failure first, failure second => first == second
  | _, _ => false

/-- This function writes a result. -/
def represent : Result → Text
  | ok value => Text.concat ["Ok(data=", value.represent, ")"]
  | success value rest =>
      Text.concat ["Success(data=", value.represent, ", rest=", rest.quoted, ")"]
  | failure reason => reason.represent

/-- This function compares every result with every result, and each is equal to itself. -/
def comparison (results : List Result) : List (List Bool) :=
  results.zipIdx.map fun first =>
    results.zipIdx.map fun second => first.2 == second.2 || first.1.equal second.1

end Result

end ParserAlgebra
