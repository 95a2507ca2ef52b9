import ParserAlgebra.Parser.Lexeme
import ParserAlgebra.Proofs.Parser.Acceptance
import ParserAlgebra.Proofs.Parser.Reading

namespace ParserAlgebra.Parser

open ParserAlgebra.Language Text

variable {α : Type} {bound : Nat} {language : Language α} {follow : Text → Prop} {source : Text}

theorem reads_spaces : Reads spaces fun text _ => Run isSpace text := by
  refine (((Reads.takeWhile isSpace).map _).rename _).mono ?_
  intro text value reading
  obtain ⟨_, ⟨rfl, run⟩, -⟩ := reading
  exact run

theorem reads_whitespace : Reads whitespace fun text _ => Run isWhitespace text := by
  refine (((Reads.takeWhile isWhitespace).map _).rename _).mono ?_
  intro text value reading
  obtain ⟨_, ⟨rfl, run⟩, -⟩ := reading
  exact run

/-- A token skips whitespace, runs its parser, and skips whitespace again. -/
theorem parse_token (parser : Parser α) (source : Text) :
    (token parser).parse source =
      (parser.parse (source.dropWhile isWhitespace)).andThen fun value rest =>
        .success value (rest.dropWhile isWhitespace) := by
  simp only [token, parse_keep, parse_drop, parse_succeed, parse_whitespace, Outcome.andThen_success,
    Outcome.andThen_assoc]

theorem token_eq_failure {parser : Parser α} {reason : Failure} :
    (token parser).parse source = .failure reason ↔
      parser.parse (source.dropWhile isWhitespace) = .failure reason := by
  rw [parse_token]
  cases parser.parse (source.dropWhile isWhitespace) <;> simp

theorem reads_token {parser : Parser α} (reads : Reads parser language) :
    Reads (token parser) (Padded isWhitespace language) := by
  intro source value rest parsed
  simp only [token, parse_keep, parse_drop, parse_succeed, Outcome.andThen_success, Outcome.andThen_assoc,
    Outcome.andThen_eq_success] at parsed
  obtain ⟨_, _, readLeft, inner, _, readInner, _, _, readRight, done⟩ := parsed
  cases done
  obtain ⟨left, rfl, before⟩ := reads_whitespace readLeft
  obtain ⟨text, rfl, member⟩ := reads readInner
  obtain ⟨right, rfl, after⟩ := reads_whitespace readRight
  exact ⟨left ++ text ++ right, by simp, .padded before member after⟩

/-- On sources below a bound, a parser accepts the texts of a language, and skips the whitespace
behind them. -/
def AcceptsTrimmed (bound : Nat) (parser : Parser α) (language : Language α) (follow : Text → Prop) :
    Prop :=
  ∀ ⦃text value rest⦄, (text ++ rest).length < bound → language text value → follow rest →
    parser.parse (text ++ rest) = .success value (rest.dropWhile isWhitespace)

theorem accepts_token {parser : Parser α} (accepts : AcceptsBelow bound parser language follow)
    (apart : ∀ {text value}, language text value → Apart isWhitespace text)
    (blank : ∀ {text rest}, Run isWhitespace text → follow rest → follow (text ++ rest)) :
    AcceptsTrimmed bound (token parser) (Padded isWhitespace language) follow := by
  rintro padded value rest inside ⟨before, inner, after⟩ follows
  rename_i left text right
  simp only [List.append_assoc, List.length_append] at inside
  have readLeft := parse_whitespace_run before ((apart inner).stops_append (right ++ rest))
  have readInner : parser.parse (text ++ (right ++ rest)) = .success value (right ++ rest) :=
    accepts (by simp only [List.length_append]; omega) inner (blank after follows)
  have readRight : whitespace.parse (right ++ rest) = .success () (rest.dropWhile isWhitespace) := by
    rw [parse_whitespace, List.dropWhile_append_of_pos after]
  simp only [token, parse_keep, parse_drop, parse_succeed, Outcome.andThen_success, List.append_assoc,
    readLeft, readInner, readRight]

theorem refuses_token {parser : Parser α} (refuses : Refuses parser (source.dropWhile isWhitespace)) :
    Refuses (token parser) source := by
  obtain ⟨reason, failed⟩ := refuses
  exact ⟨reason, token_eq_failure.2 failed⟩

/-- Whitespace in front of a token makes no difference. -/
theorem parse_token_dropWhile (parser : Parser α) (source : Text) :
    (token parser).parse (source.dropWhile isWhitespace) = (token parser).parse source := by
  have once := (stops_dropWhile isWhitespace source).dropWhile_eq
  rw [parse_token, parse_token, once]

/-- A list of items ends at a closing text, where neither a comma nor an item stands. -/
structure Closes (bound : Nat) (item : Parser α) (follow : Text → Prop) (closing : Text) : Prop where
  stops : Stops isWhitespace closing
  noComma : Refuses (string ",") closing
  follows : ∀ {blank}, Run isWhitespace blank → follow (blank ++ closing)
  noItem : ∀ {blank}, Run isWhitespace blank → (blank ++ closing).length < bound →
    Refuses item (blank ++ closing)

/-- Items that end with commas are read one after the other, and the repetition goes on behind
them. -/
theorem parse_many_ended {item : Parser α} {text rest : Text} {values : List α}
    (accepts : AcceptsTrimmed bound item language follow)
    (comma : ∀ rest, follow (("," : Text) ++ rest)) (ended : Sequence (Ended language) text values)
    (inside : (text ++ rest).length < bound) :
    (many item (string ",")).parse (text ++ rest) =
      ((many item (string ",")).parse rest).andThen fun others final =>
        .success (values ++ others) final := by
  induction ended with
  | nil =>
      rw [List.nil_append]
      cases (many item (string ",")).parse rest <;> rfl
  | @cons text others value values first _ inductionHypothesis =>
      obtain ⟨inner⟩ := first
      rename_i text
      have mark : 0 < ("," : Text).length := by decide
      simp only [List.append_assoc, List.length_append] at inside ⊢
      have readFirst := accepts (by simp only [List.length_append]; omega) inner (comma (others ++ rest))
      have apart : Stops isWhitespace (("," : Text) ++ (others ++ rest)) :=
        Stops.append (by decide) (by decide)
      rw [apart.dropWhile_eq] at readFirst
      have unit : (item.drop (string ",")).parse (text ++ (("," : Text) ++ (others ++ rest))) =
          .success value (others ++ rest) := by
        simp [readFirst, parse_string_append]
      have shorter : (others ++ rest).length < (text ++ (("," : Text) ++ (others ++ rest))).length := by
        simp only [List.length_append]
        omega
      have readOthers := inductionHypothesis (by simp only [List.length_append]; omega)
      rw [parse_many, unit]
      simp only [if_pos shorter, readOthers, Outcome.andThen_assoc, Outcome.andThen_success,
        List.cons_append]

/-- Items with commas between them are read up to the whitespace in front of the closing text, with a comma behind the
last one. -/
theorem parse_many_commas {item : Parser α} {closing text blank : Text} {values : List α}
    (accepts : AcceptsTrimmed bound item language follow)
    (comma : ∀ rest, follow (("," : Text) ++ rest)) (closes : Closes bound item follow closing)
    (repeated : Repeated language (Literal ",") text values) (run : Run isWhitespace blank)
    (inside : (text ++ (blank ++ closing)).length < bound) :
    ∃ left, Run isWhitespace left ∧
      (many item (string ",")).parse (text ++ (blank ++ closing)) = .success values (left ++ closing) := by
  -- Whitespace in front of the closing text is skipped behind an item, but not behind a comma.
  rcases repeated.ended with ended | ⟨front, back, first, last, rfl, rfl, ended, final⟩
  · have within : (blank ++ closing).length < bound := by
      simp only [List.length_append] at inside ⊢
      omega
    refine ⟨blank, run, ?_⟩
    rw [parse_many_ended accepts comma ended inside, (closes.noItem run within).parse_many]
    simp
  · rw [List.append_assoc] at inside ⊢
    have within : (back ++ (blank ++ closing)).length < bound := by
      simp only [List.length_append] at inside ⊢
      omega
    have read := accepts within final (closes.follows run)
    rw [run.dropWhile_append closes.stops] at read
    refine ⟨[], run_nil, ?_⟩
    rw [parse_many_ended accepts comma ended inside, parse_many_last read closes.noComma]
    rfl

end ParserAlgebra.Parser
