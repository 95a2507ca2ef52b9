import ParserAlgebra.Proofs.Parser.Fault
import ParserAlgebra.Proofs.Parser.SinglePass

namespace ParserAlgebra.Parser

variable {α σ : Type} {element : Parser α} {separator : Parser σ} {source : Text}

/-- A parser is steady on a source if it raises no fault on any end of it. -/
def SteadyOn (source : Text) (parser : Parser α) : Prop :=
  ∀ ⦃stand fault⦄, stand <:+ source → parser.parse stand ≠ .fault fault

theorem Steady.on {parser : Parser α} (steady : Steady parser) (source : Text) : SteadyOn source parser :=
  fun _ _ _ raised => steady raised

/-- A repetition stops where no element stands, behind an element without a separator, or where both consume
nothing. -/
inductive Stopped (element : Parser α) (separator : Parser σ) (source : Text) : List α → Text → Prop where
  | refused {values : List α} {rest : Text} (refuses : Refuses element rest) :
      Stopped element separator source values rest
  | trailing {values : List α} {value : α} {stand rest : Text} (within : stand <:+ source)
      (read : element.parse stand = .success value rest) (refuses : Refuses separator rest) :
      Stopped element separator source (values ++ [value]) rest
  | idle {values : List α} {value : α} {rest : Text}
      (unit : (element.drop separator).parse rest = .success value rest) :
      Stopped element separator source (values ++ [value]) rest

/-- A repetition on a source ends with values and a rest, and each value but the last took up some input. -/
structure Ending (element : Parser α) (separator : Parser σ) (source : Text) (values : List α) (rest : Text) :
    Prop where
  suffix : rest <:+ source
  bounded : values.length ≤ source.length + 1
  stopped : Stopped element separator source values rest

/-- A loop on a source has gone on with an end of it, and each value that it collected took up some input. -/
structure Advance (source : Text) (progress : Progress α) : Prop where
  suffix : progress.rest <:+ source
  bounded : progress.values.length + progress.rest.length ≤ source.length

section Loop

variable (readsElement : Reads element fun _ _ => True) (readsSeparator : Reads separator fun _ _ => True)
  (steadyElement : SteadyOn source element) (steadySeparator : SteadyOn source separator)
include readsElement readsSeparator steadyElement steadySeparator

/-- One turn ends the loop with a success, or takes it further into the source. -/
theorem Advance.turn {progress : Progress α} (advance : Advance source progress) :
    (∃ values rest, turn element separator progress = .done (.success values rest) ∧
        Ending element separator source values rest) ∨
      ∃ later, turn element separator progress = .next later ∧ Advance source later := by
  obtain ⟨values, rest⟩ := progress
  obtain ⟨suffix, bounded⟩ := advance
  dsimp only at suffix bounded
  have room : ∀ value, (values ++ [value]).length ≤ source.length + 1 := by
    intro value
    rw [List.length_append, List.length_singleton]
    omega
  cases first : element.parse rest with
  | fault fault => exact (steadyElement suffix first).elim
  | failure reason =>
      exact .inl ⟨values, rest, by simp [Parser.turn, first], suffix, by omega, .refused ⟨reason, first⟩⟩
  | success value middle =>
      have behind : middle <:+ source := (readsElement.suffix first).trans suffix
      cases second : separator.parse middle with
      | fault fault => exact (steadySeparator behind second).elim
      | failure reason =>
          exact .inl ⟨values ++ [value], middle, by simp [Parser.turn, first, second], behind, room value,
            .trailing suffix first ⟨reason, second⟩⟩
      | success mark final =>
          have inside : final <:+ rest := (readsSeparator.suffix second).trans (readsElement.suffix first)
          by_cases same : final.length = rest.length
          · have still : final = rest := inside.eq_of_length same
            have unit : (element.drop separator).parse rest = .success value rest := by
              simp [first, second, still]
            exact .inl ⟨values ++ [value], rest, by simp [Parser.turn, first, second, same], suffix, room value,
              .idle unit⟩
          · have shorter := inside.length_le
            refine .inr ⟨⟨values ++ [value], final⟩, by simp [Parser.turn, first, second, same],
              inside.trans suffix, ?_⟩
            simp only [List.length_append, List.length_singleton]
            omega

/-- A loop that ends does so with a success. -/
theorem Loops.ending {progress : Progress α} {outcome : Outcome (List α)}
    (loops : Loops element separator progress outcome) (advance : Advance source progress) :
    ∃ values rest, outcome = .success values rest ∧ Ending element separator source values rest := by
  induction loops with
  | done stops =>
      rcases advance.turn readsElement readsSeparator steadyElement steadySeparator with
        ⟨values, rest, ends, ending⟩ | ⟨later, goes, -⟩
      · rw [stops] at ends
        cases ends
        exact ⟨values, rest, rfl, ending⟩
      · rw [stops] at goes
        cases goes
  | next goes _ inductionHypothesis =>
      rcases advance.turn readsElement readsSeparator steadyElement steadySeparator with
        ⟨values, rest, ends, -⟩ | ⟨later, again, further⟩
      · rw [goes] at ends
        cases ends
      · rw [goes] at again
        cases again
        exact inductionHypothesis further

end Loop

/-- A repetition never fails, and it ends with at most one value more than the source has code points. -/
theorem many_ends (readsElement : Reads element fun _ _ => True) (readsSeparator : Reads separator fun _ _ => True)
    (steadyElement : SteadyOn source element) (steadySeparator : SteadyOn source separator) :
    ∃ values rest, (many element separator).parse source = .success values rest ∧
      Loops element separator ⟨[], source⟩ (.success values rest) ∧
      values.length ≤ source.length + 1 ∧ rest <:+ source ∧ Stopped element separator source values rest := by
  have start : Advance source (⟨[], source⟩ : Progress α) := ⟨List.suffix_refl source, by simp⟩
  have loops := loops_many readsElement readsSeparator [] source
  obtain ⟨values, rest, ended, ending⟩ :=
    loops.ending readsElement readsSeparator steadyElement steadySeparator start
  obtain ⟨others, _, parsed, same⟩ := Outcome.andThen_eq_success.1 ended
  rw [ended] at loops
  cases same
  exact ⟨others, rest, parsed, loops, ending.bounded, ending.suffix, ending.stopped⟩

/-- Empty elements with a comma behind each are collected up to the end, and one more there. -/
theorem many_ends_commas :
    let element := takeWhile isDigit
    let comma := string ","
    let source : Text := ",,"
    let values : List Text := ["", "", ""]
    Reads element (fun _ _ => True) ∧ Reads comma (fun _ _ => True) ∧ SteadyOn source element ∧
      SteadyOn source comma ∧ (many element comma).parse source = .success values [] ∧
      values.length = source.length + 1 ∧ Stopped element comma source values [] := by
  intro element comma source values
  have readsElement : Reads element fun _ _ => True := (Reads.takeWhile isDigit).mono fun _ => trivial
  have readsComma : Reads comma fun _ _ => True := (Reads.string ",").mono fun _ => trivial
  have steadyElement : SteadyOn source element := (Steady.takeWhile isDigit).on source
  have steadyComma : SteadyOn source comma := (Steady.string ",").on source
  have parsed : (many element comma).parse source = .success values [] := by decide +kernel
  obtain ⟨_, _, read, -, -, -, stopped⟩ := many_ends readsElement readsComma steadyElement steadyComma
  cases parsed.symm.trans read
  exact ⟨readsElement, readsComma, steadyElement, steadyComma, parsed, rfl, stopped⟩

end ParserAlgebra.Parser
