import ParserAlgebra.Parser.Character
import ParserAlgebra.Parser.Recursion
import ParserAlgebra.Parser.Repetition
import ParserAlgebra.Proofs.Language
import ParserAlgebra.Proofs.Text.Run

namespace ParserAlgebra.Parser

open ParserAlgebra.Language Text

variable {α β γ σ : Type} {source text rest : Text}

/-- A parser refuses a source if it fails on it. -/
def Refuses (parser : Parser α) (source : Text) : Prop :=
  ∃ reason, parser.parse source = .failure reason

theorem parse_string_append (literal rest : Text) :
    (string literal).parse (literal ++ rest) = .success literal rest := by
  have starts : literal.isPrefixOf (literal ++ rest) = true :=
    List.isPrefixOf_iff_prefix.2 (List.prefix_append literal rest)
  rw [parse_string, if_pos starts, List.drop_left]

/-- A literal fails where the source does not start with it. -/
theorem parse_string_eq_failure {literal : Text} {reason : Failure} :
    (string literal).parse source = .failure reason ↔
      ¬ literal <+: source ∧ reason = literalFailure literal source := by
  rw [parse_string, ← List.isPrefixOf_iff_prefix]
  split
  · rename_i starts
    simp [starts]
  · rename_i apart
    simp [apart, eq_comm]

theorem parse_takeWhile_run {test : CodePoint → Bool} (run : Run test text) (stops : Stops test rest) :
    (takeWhile test).parse (text ++ rest) = .success text rest := by
  rw [takeWhile, parse_ofOutcome, run.takeWhile_append stops, run.dropWhile_append stops]

theorem parse_takeIfAndWhile_run {test : CodePoint → Bool} (run : Run test text)
    (nonempty : text ≠ []) (stops : Stops test rest) :
    (takeIfAndWhile test).parse (text ++ rest) = .success text rest := by
  rw [parse_takeIfAndWhile, run.takeWhile_append stops, run.dropWhile_append stops]
  cases text with
  | nil => exact absurd rfl nonempty
  | cons point points => simp [(run_cons.1 run).1]

theorem parse_spaces_run (run : Run isSpace text) (stops : Stops isSpace rest) :
    spaces.parse (text ++ rest) = .success () rest := by
  rw [parse_spaces, run.dropWhile_append stops]

theorem parse_whitespace_run (run : Run isWhitespace text) (stops : Stops isWhitespace rest) :
    whitespace.parse (text ++ rest) = .success () rest := by
  rw [parse_whitespace, run.dropWhile_append stops]

theorem refuses_string {literal : Text} (apart : ¬ literal <+: source) :
    Refuses (string literal) source :=
  ⟨literalFailure literal source, parse_string_eq_failure.2 ⟨apart, rfl⟩⟩

/-- A literal is refused where the class of its first code point stops. -/
theorem refuses_string_stops {test : CodePoint → Bool} {point : CodePoint} {points : Text}
    (accepted : test point = true) (stops : Stops test source) :
    Refuses (string (point :: points)) source := by
  refine refuses_string ?_
  rintro ⟨tail, rfl⟩
  rw [List.cons_append, stops_cons, accepted] at stops
  cases stops

theorem refuses_takeIfAndWhile {test : CodePoint → Bool} (stops : Stops test source) :
    Refuses (takeIfAndWhile test) source := by
  rw [Refuses, parse_takeIfAndWhile]
  cases source with
  | nil => exact ⟨_, rfl⟩
  | cons point points =>
      rw [stops_cons] at stops
      exact ⟨.unexpected (point :: points), by simp [stops]⟩

namespace Refuses

theorem transform {parser : Parser α} (f : α → β) (refuses : Refuses parser source) :
    Refuses (parser.transform f) source := by
  obtain ⟨reason, failed⟩ := refuses
  exact ⟨reason, by simp [failed]⟩

theorem andThen {parser : Parser α} (next : α → Parser β) (refuses : Refuses parser source) :
    Refuses (parser.andThen next) source := by
  obtain ⟨reason, failed⟩ := refuses
  exact ⟨reason, by simp [failed]⟩

theorem map2 {first : Parser α} (f : α → β → γ) (second : Parser β) (refuses : Refuses first source) :
    Refuses (map2 f first second) source := by
  obtain ⟨reason, failed⟩ := refuses
  exact ⟨reason, by simp [failed]⟩

/-- A sequence whose first part succeeds is refused where its second part refuses the rest. -/
theorem map2_second {first : Parser α} {second : Parser β} {value : α} (f : α → β → γ)
    (read : first.parse source = .success value rest) (refuses : Refuses second rest) :
    Refuses (Parser.map2 f first second) source := by
  obtain ⟨reason, failed⟩ := refuses
  exact ⟨reason, by simp [read, failed]⟩

theorem oneOf {alternatives : List (Parser α)}
    (each : ∀ alternative ∈ alternatives, Refuses alternative source) :
    Refuses (oneOf alternatives) source := by
  induction alternatives with
  | nil => exact ⟨noAlternative, rfl⟩
  | cons first others inductionHypothesis =>
      cases others with
      | nil => exact each first (by simp)
      | cons second others =>
          obtain ⟨reason, failed⟩ := each first (by simp)
          obtain ⟨last, failedLast⟩ :=
            inductionHypothesis fun alternative member => each alternative (by simp [member])
          exact ⟨last, by simp [failed, failedLast]⟩

theorem parse_optional {parser : Parser α} (refuses : Refuses parser source) :
    parser.optional.parse source = .success none source := by
  obtain ⟨reason, failed⟩ := refuses
  simp [failed]

/-- A choice passes over an alternative that refuses the source. -/
theorem parse_oneOf {first second : Parser α} {others : List (Parser α)}
    (refuses : Refuses first source) :
    (Parser.oneOf (first :: second :: others)).parse source =
      (Parser.oneOf (second :: others)).parse source := by
  obtain ⟨reason, failed⟩ := refuses
  simp [failed]

theorem parse_many {element : Parser α} (separator : Parser σ) (refuses : Refuses element source) :
    (many element separator).parse source = .success [] source := by
  obtain ⟨reason, failed⟩ := refuses
  simp [Parser.parse_many, failed]

end Refuses

/-- A choice among literals is refused where the class of their first code points stops. -/
theorem refuses_literals {test : CodePoint → Bool} {literals : List Text}
    (known : ∀ literal ∈ literals, ¬ Stops test literal) (stops : Stops test source) :
    Refuses (oneOf (literals.map string)) source := by
  refine .oneOf fun alternative member => ?_
  obtain ⟨literal, listed, rfl⟩ := List.mem_map.1 member
  cases literal with
  | nil => exact absurd stops_nil (known [] listed)
  | cons point points => exact refuses_string_stops (by simpa using known _ listed) stops

/-- A choice keeps the first alternative that succeeds. -/
theorem parse_oneOf_first {first : Parser α} {value : α} (others : List (Parser α))
    (read : first.parse source = .success value rest) :
    (oneOf (first :: others)).parse source = .success value rest := by
  cases others with
  | nil => exact read
  | cons second others => simp [read]

/-- A choice passes over all alternatives that refuse the source. -/
theorem parse_oneOf_append {alternatives : List (Parser α)} (last : Parser α)
    (each : ∀ alternative ∈ alternatives, Refuses alternative source) :
    (oneOf (alternatives ++ [last])).parse source = last.parse source := by
  induction alternatives with
  | nil => rfl
  | cons first others inductionHypothesis =>
      have refuses := each first (by simp)
      have behind := inductionHypothesis fun alternative member => each alternative (by simp [member])
      cases others with
      | nil => exact refuses.parse_oneOf
      | cons second others => exact refuses.parse_oneOf.trans behind

/-- An optional text is accepted if the parser accepts it, and refuses what stands behind it. -/
theorem parse_optional_append {parser : Parser α} {language : Language α} {value? : Option α}
    (accepts : ∀ {text value}, language text value → parser.parse (text ++ rest) = .success value rest)
    (refuses : Refuses parser rest) (member : Optional language text value?) :
    parser.optional.parse (text ++ rest) = .success value? rest := by
  cases member with
  | absent => exact refuses.parse_optional
  | present here => simp [accepts here]

/-- A repetition reads one element and its separator, and goes on behind them. -/
theorem parse_many_cons {element : Parser α} {separator : Parser σ} {value : α} {values : List α}
    {final : Text} (unit : (element.drop separator).parse source = .success value rest)
    (shorter : rest.length < source.length)
    (others : (many element separator).parse rest = .success values final) :
    (many element separator).parse source = .success (value :: values) final := by
  rw [parse_many, unit]
  simp [shorter, others]

/-- A repetition ends with an element that has no separator behind it. -/
theorem parse_many_last {element : Parser α} {separator : Parser σ} {value : α}
    (read : element.parse source = .success value rest) (refuses : Refuses separator rest) :
    (many element separator).parse source = .success [value] rest := by
  obtain ⟨reason, failed⟩ := refuses
  simp [parse_many, read, failed]

/-- On sources below a bound, a parser accepts the texts of a language in front of the rests that may
follow them. -/
def AcceptsBelow (bound : Nat) (parser : Parser α) (language : Language α) (follow : Text → Prop) :
    Prop :=
  ∀ ⦃text value rest⦄, (text ++ rest).length < bound → language text value → follow rest →
    parser.parse (text ++ rest) = .success value rest

/-- A recursive parser accepts a language if its body does so with the parser on shorter
sources. -/
theorem accepts_fix {body : Parser α → Parser α} {language : Language α} {follow : Text → Prop}
    (step : ∀ bound, AcceptsBelow bound ((fix body).below bound) language follow →
      ∀ ⦃text value rest⦄, (text ++ rest).length = bound → language text value → follow rest →
        (body ((fix body).below bound)).parse (text ++ rest) = .success value rest)
    (bound : Nat) : AcceptsBelow bound (fix body) language follow := by
  induction bound using Nat.strongRecOn with
  | ind bound inductionHypothesis =>
      intro text value rest inside member follows
      rw [parse_fix]
      -- The body gets the parser below the length of this source, where the hypothesis holds.
      refine step _ ?_ rfl member follows
      intro text' value' rest' shorter member' follows'
      rw [parse_below, if_pos shorter]
      exact inductionHypothesis _ inside shorter member' follows'

/-- A repetition without separators accepts a sequence whose elements may follow each other, in front of no
element. -/
theorem accepts_many_sequence {bound : Nat} {element : Parser α} {language : Language α}
    {follow : Text → Prop} (accepts : AcceptsBelow bound element language follow)
    (nonempty : ∀ {text value}, language text value → text ≠ [])
    (starts : ∀ {text value} rest, language text value → follow (text ++ rest)) :
    AcceptsBelow bound (many element (succeed ())) (Sequence language)
      fun rest => follow rest ∧ Refuses element rest := by
  intro text values rest inside sequence ends
  obtain ⟨follows, refuses⟩ := ends
  induction sequence with
  | nil => exact refuses.parse_many _
  | @cons text others value values first sequence inductionHypothesis =>
      have positive : 0 < text.length := List.length_pos_iff.2 (nonempty first)
      simp only [List.append_assoc, List.length_append] at inside
      have between : follow (others ++ rest) := by
        cases sequence with
        | nil => exact follows
        | cons next _ =>
            rw [List.append_assoc]
            exact starts _ next
      have read : element.parse (text ++ (others ++ rest)) = .success value (others ++ rest) :=
        accepts (by simp only [List.length_append]; omega) first between
      rw [List.append_assoc]
      refine parse_many_cons (by simp [read]) ?_ (inductionHypothesis ?_)
      · simp only [List.length_append]
        omega
      · simp only [List.length_append]
        omega

end ParserAlgebra.Parser
