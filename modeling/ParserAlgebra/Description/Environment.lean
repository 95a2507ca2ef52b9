import ParserAlgebra.Description.Build
import ParserAlgebra.Run

namespace ParserAlgebra

/-- An environment gives parsers to names. -/
structure Environment where
  entries : List (Text × BoundParser) := []

namespace Environment

/-- This function finds the parser that a name has now. -/
def resolve (environment : Environment) (name : Text) : Except Fault BoundParser :=
  match Association.find? name environment.entries with
  | some bound => .ok bound
  | none => .error (.unknownReference name)

/-- This function gives names their meaning while a parser runs, with references nested as deep as the bound says. -/
def lookup (environment : Environment) : Nat → Lookup
  | 0 => fun _ => Parser.abort .unboundedRecursion
  | depth + 1 => fun name =>
      match environment.resolve name with
      | .ok bound => bound (lookup environment depth)
      | .error fault => Parser.abort fault

/-- This function bounds the nesting of references on an input, since each length of the rest allows each name
once. -/
def depthBound (environment : Environment) (source : Text) : Nat :=
  environment.entries.length * (source.length + 1) + 1

/-- This function builds the parser of a description. -/
def build (environment : Environment) (description : Description) : Except Fault BoundParser := do
  let built ← description.build environment.resolve
  built.require .thunk

/-- This function gives a name the parser of a description, and replaces the parser of a name that is present. -/
def define (environment : Environment) (name : Text) (description : Description) :
    Except Fault Environment := do
  let bound ← environment.build description
  return ⟨Association.insert name bound environment.entries⟩

/-- This function defines names one after the other. -/
def ofDefinitions (definitions : List (Text × Description)) : Except Fault Environment :=
  definitions.foldlM (fun environment entry => environment.define entry.1 entry.2) ⟨[]⟩

/-- This function gives the parser to run on an input. -/
def close (environment : Environment) (bound : BoundParser) (source : Text) : Parser Value :=
  bound (environment.lookup (environment.depthBound source))

/-- This function builds a description after the definitions that it may refer to, for one
input. -/
def prepare (definitions : List (Text × Description)) (description : Description)
    (source : Text) : Except Fault (Parser Value) := do
  let environment ← ofDefinitions definitions
  let bound ← environment.build description
  return environment.close bound source

end Environment

end ParserAlgebra
