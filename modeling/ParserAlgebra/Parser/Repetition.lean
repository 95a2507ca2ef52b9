import ParserAlgebra.Parser.Choice

namespace ParserAlgebra.Parser

variable {α σ : Type}

/-- This function collects elements until an element and its separator fail or leave a rest that is not shorter, which
means that they consume nothing if every parser leaves an end of its input. -/
def manyFrom (element : Parser α) (separator : Parser σ) (source : Text) :
    Logged (Outcome (List α)) := do
  match ← (element.drop separator).step source with
  | .success value rest =>
      if rest.length < source.length then
        return (← manyFrom element separator rest).andThen fun values final =>
          .success (value :: values) final
      else
        return .success [value] source
  | .failure _ =>
      -- The last element needs no separator.
      match ← element.step source with
      | .success value rest => return .success [value] rest
      | .failure _ => return .success [] source
      | .fault reason => return .fault reason
  | .fault reason => return .fault reason
termination_by source.length

/-- This combinator reads zero or more elements with separators between them, and a separator after the last one. -/
def many (element : Parser α) (separator : Parser σ) : Parser (List α) where
  step := manyFrom element separator
  name := some "many"

/-- Repetition on its outcomes alone. -/
theorem parse_many (element : Parser α) (separator : Parser σ) (source : Text) :
    (many element separator).parse source =
      match (element.drop separator).parse source with
      | .success value rest =>
          if rest.length < source.length then
            ((many element separator).parse rest).andThen fun values final =>
              .success (value :: values) final
          else
            .success [value] source
      | .failure _ =>
          match element.parse source with
          | .success value rest => .success [value] rest
          | .failure _ => .success [] source
          | .fault reason => .fault reason
      | .fault reason => .fault reason := by
  simp only [parse, many]
  rw [manyFrom, Logged.value_bind]
  cases ((element.drop separator).step source).value with
  | success value rest =>
      dsimp only
      split <;> rfl
  | failure reason =>
      dsimp only
      rw [Logged.value_bind]
      cases (element.step source).value <;> rfl
  | fault reason => rfl

/-- A repetition never fails, since each failure of its parts ends it. -/
theorem parse_many_ne_failure (element : Parser α) (separator : Parser σ) (source : Text)
    (reason : Failure) : (many element separator).parse source ≠ .failure reason := by
  induction bound : source.length using Nat.strongRecOn generalizing source with
  | ind bound inductionHypothesis =>
      subst bound
      intro failed
      rw [parse_many] at failed
      split at failed
      · split at failed
        · rename_i shorter
          rw [Outcome.andThen_eq_failure] at failed
          rcases failed with failed | ⟨_, _, _, done⟩
          · exact inductionHypothesis _ shorter _ rfl failed
          · cases done
        · cases failed
      · split at failed <;> cases failed
      · cases failed

end ParserAlgebra.Parser
