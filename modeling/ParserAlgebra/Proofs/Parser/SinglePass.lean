import ParserAlgebra.Proofs.Parser.Reading

namespace ParserAlgebra.Parser

variable {α σ : Type} {element : Parser α} {separator : Parser σ}

/-- The values that a loop has collected so far, and the input on which it goes on. -/
structure Progress (α : Type) where
  values : List α
  rest : Text

/-- A turn of a loop ends it, or leaves it with more progress. -/
inductive Turn (α : Type) where
  | done (outcome : Outcome (List α))
  | next (progress : Progress α)

/-- This function takes one turn, which reads an element and then a separator, and ends if either fails or both read
nothing. -/
def turn (element : Parser α) (separator : Parser σ) (progress : Progress α) : Turn α :=
  match element.parse progress.rest with
  | .failure _ => .done (.success progress.values progress.rest)
  | .fault reason => .done (.fault reason)
  | .success value middle =>
      match separator.parse middle with
      | .failure _ => .done (.success (progress.values ++ [value]) middle)
      | .fault reason => .done (.fault reason)
      | .success _ final =>
          if final.length = progress.rest.length then
            .done (.success (progress.values ++ [value]) progress.rest)
          else
            .next ⟨progress.values ++ [value], final⟩

/-- The loop that takes turns ends with an outcome. -/
inductive Loops (element : Parser α) (separator : Parser σ) : Progress α → Outcome (List α) → Prop where
  | done {progress : Progress α} {outcome : Outcome (List α)}
      (stops : turn element separator progress = .done outcome) : Loops element separator progress outcome
  | next {progress later : Progress α} {outcome : Outcome (List α)}
      (goes : turn element separator progress = .next later)
      (finishes : Loops element separator later outcome) : Loops element separator progress outcome

/-- A loop ends with one outcome only. -/
theorem Loops.unique {progress : Progress α} {first second : Outcome (List α)}
    (here : Loops element separator progress first) (there : Loops element separator progress second) :
    first = second := by
  induction here with
  | done stops =>
      cases there with
      | done again =>
          rw [stops] at again
          injection again
      | next goes _ =>
          rw [stops] at goes
          cases goes
  | next goes _ inductionHypothesis =>
      cases there with
      | done stops =>
          rw [goes] at stops
          cases stops
      | next again finishes =>
          rw [goes] at again
          injection again with same
          subst same
          exact inductionHypothesis finishes

/-- A loop goes on as the repetition does on the rest. -/
theorem loops_many (readsElement : Reads element fun _ _ => True)
    (readsSeparator : Reads separator fun _ _ => True) (values : List α) (rest : Text) :
    Loops element separator ⟨values, rest⟩
      (((many element separator).parse rest).andThen fun others final =>
        .success (values ++ others) final) := by
  -- Each turn that goes on makes the rest shorter.
  induction bound : rest.length using Nat.strongRecOn generalizing values rest with
  | ind bound inductionHypothesis =>
      subst bound
      rw [parse_many, parse_drop]
      cases first : element.parse rest with
      | failure reason =>
          apply Loops.done
          simp [turn, first]
      | fault reason =>
          apply Loops.done
          simp [turn, first]
      | success value middle =>
          cases second : separator.parse middle with
          | failure reason =>
              apply Loops.done
              simp [turn, first, second]
          | fault reason =>
              apply Loops.done
              simp [turn, first, second]
          | success mark final =>
              have inside : final.length ≤ rest.length :=
                ((readsSeparator.suffix second).trans (readsElement.suffix first)).length_le
              simp only [Outcome.andThen_success, second]
              by_cases same : final.length = rest.length
              · rw [if_neg (by omega)]
                apply Loops.done
                simp [turn, first, second, same]
              · have shorter : final.length < rest.length := by omega
                have goes :
                    turn element separator ⟨values, rest⟩ = .next ⟨values ++ [value], final⟩ := by
                  simp [turn, first, second, same]
                have behind := inductionHypothesis final.length shorter (values ++ [value]) final rfl
                rw [if_pos shorter, Outcome.andThen_assoc]
                apply Loops.next goes
                simpa only [List.append_assoc, Outcome.andThen_success, List.singleton_append] using behind

/-- A repetition gives an outcome exactly if the loop that reads each element once ends with it. -/
theorem many_iff_loops (readsElement : Reads element fun _ _ => True)
    (readsSeparator : Reads separator fun _ _ => True) {source : Text} {outcome : Outcome (List α)} :
    (many element separator).parse source = outcome ↔ Loops element separator ⟨[], source⟩ outcome := by
  have ends := loops_many readsElement readsSeparator [] source
  have whole : (((many element separator).parse source).andThen fun others final =>
      .success ([] ++ others) final) = (many element separator).parse source := by
    cases (many element separator).parse source <;> rfl
  rw [whole] at ends
  constructor
  · rintro rfl
    exact ends
  · intro loops
    exact ends.unique loops

/-- Behind the last digit both parts read nothing, and the loop ends with one more element. -/
theorem loops_digits_spaces :
    Reads (takeWhile isDigit) (fun _ _ => True) ∧ Reads spaces (fun _ _ => True) ∧
      (many (takeWhile isDigit) spaces).parse "12 3;" = .success ["12", "3", ""] ";" ∧
      Loops (takeWhile isDigit) spaces ⟨[], "12 3;"⟩ (.success ["12", "3", ""] ";") := by
  have readsDigits : Reads (takeWhile isDigit) fun _ _ => True :=
    (Reads.takeWhile isDigit).mono fun _ => trivial
  have readsSpaces : Reads spaces fun _ _ => True :=
    (((Reads.takeWhile isSpace).map _).rename _).mono fun _ => trivial
  have parsed : (many (takeWhile isDigit) spaces).parse "12 3;" = .success ["12", "3", ""] ";" := by
    decide +kernel
  exact ⟨readsDigits, readsSpaces, parsed, (many_iff_loops readsDigits readsSpaces).1 parsed⟩

end ParserAlgebra.Parser
