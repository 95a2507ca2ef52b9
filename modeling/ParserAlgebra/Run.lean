import ParserAlgebra.ParseError
import ParserAlgebra.Parser.Basic

namespace ParserAlgebra

variable {α : Type}

/-- An error that leaves the library: an unhandled failure or a fault. -/
inductive Raised where
  | parseError (error : ParseError)
  | fault (reason : Fault)

/-- This function applies a parser to the whole input, forgets what is left over, and logs the description of a
failure. -/
def run (source : Text) (parser : Parser α) : Logged (Verdict α) := do
  Logged.tell .engine (Text.concat
    ["Running ", parser.represent, " on ", Text.ofNat source.length, " characters"])
  match ← parser.step source with
  | .success value rest =>
      Logged.tell .engine (Text.concat
        ["Parse succeeded with ", Text.ofNat rest.length, " characters left over"])
      return .ok value
  | .failure reason =>
      match reason.describe with
      | .error fault => return .fault fault
      | .ok description =>
          Logged.tell .engine (Text.concat ["Parse failed: ", description])
          return .failure reason
  | .fault reason => return .fault reason

/-- A run gives the value of a success, and a failure that has a description. -/
theorem value_run (source : Text) (parser : Parser α) :
    (run source parser).value =
      match parser.parse source with
      | .success value _ => .ok value
      | .failure reason =>
          match reason.describe with
          | .error fault => .fault fault
          | .ok _ => .failure reason
      | .fault reason => .fault reason := by
  simp only [run, Logged.value_bind, Parser.parse]
  cases (parser.step source).value with
  | success value rest => rfl
  | failure reason =>
      dsimp only
      cases reason.describe <;> rfl
  | fault reason => rfl

/-- A run accepts exactly what the parser reads, whatever the parser leaves over. -/
theorem value_run_eq_ok {source : Text} {parser : Parser α} {value : α} :
    (run source parser).value = .ok value ↔ ∃ rest, parser.parse source = .success value rest := by
  rw [value_run]
  cases parser.parse source with
  | success other rest => simp
  | failure reason =>
      dsimp only
      cases reason.describe <;> simp
  | fault reason => simp

/-- This function gives the value of a run, or the error of its failure. -/
def runOrRaise (source : Text) (parser : Parser α) : Logged (Except Raised α) := do
  match ← run source parser with
  | .ok value => return .ok value
  | .failure reason =>
      match ParseError.ofFailure source reason with
      | .ok error => return .error (.parseError error)
      | .error fault => return .error (.fault fault)
  | .fault reason => return .error (.fault reason)

/-- The value of a run is raised if it is a failure or a fault. -/
theorem value_runOrRaise (source : Text) (parser : Parser α) :
    (runOrRaise source parser).value =
      match (run source parser).value with
      | .ok value => .ok value
      | .failure reason =>
          match ParseError.ofFailure source reason with
          | .ok error => .error (.parseError error)
          | .error fault => .error (.fault fault)
      | .fault reason => .error (.fault reason) := by
  rw [runOrRaise, Logged.value_bind]
  cases (run source parser).value with
  | ok value => rfl
  | failure reason =>
      dsimp only
      cases ParseError.ofFailure source reason <;> rfl
  | fault reason => rfl

end ParserAlgebra
