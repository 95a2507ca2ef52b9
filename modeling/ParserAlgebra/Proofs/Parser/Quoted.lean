import ParserAlgebra.Parser.Lexeme
import ParserAlgebra.Proofs.Parser.Acceptance
import ParserAlgebra.Proofs.Parser.Reading
import ParserAlgebra.Proofs.Text.Numeral

namespace ParserAlgebra.Parser

open ParserAlgebra.Language Text

variable {source text rest : Text}

/-- One unit of a string is a code point that stands for itself, an escape of the table, or an escape
that numbers a code point with four hexadecimal digits. -/
inductive StringUnit : Text → Text → Prop where
  | plain {point : CodePoint} (noQuote : [point] ≠ standardQuote) (noEscape : [point] ≠ standardEscape) :
      StringUnit [point] [point]
  | escape {name meaning : Text} (known : (name, meaning) ∈ standardEscapes) :
      StringUnit (standardEscape ++ name) meaning
  | numbered {digits : Text} {point : CodePoint} (four : digits.length = 4)
      (run : Run ("0123456789ABCDEFabcdef" : Text).contains digits) (number : point.toNat = hexadecimalPositionalValue digits) :
      StringUnit (standardEscape ++ ("u" : Text) ++ digits) [point]

/-- A string is a sequence of units between quotes and means their meanings, one after the other. -/
inductive StringText : Text → Text → Prop where
  | quoted {content : Text} {parts : List Text} (units : Sequence StringUnit content parts) :
      StringText (standardQuote ++ content ++ standardQuote) parts.flatten

/-- This test accepts the code points that stand for themselves. -/
abbrev isStandardPlain : CodePoint → Bool :=
  isPlain standardQuote standardEscape

/-- This parser reads an escape, or as many plain code points as there are. -/
def stringPiece : Parser Text :=
  oneOf [escapeSequence standardEscapes standardEscape, takeIfAndWhile isStandardPlain]

/-- This parser reads what stands between the quotes. -/
def stringContent : Parser (List Text) :=
  many stringPiece (succeed ())

theorem parse_standardString (source : Text) :
    standardString.parse source =
      ((string standardQuote).parse source).andThen fun _ rest =>
        (stringContent.parse rest).andThen fun pieces rest =>
          ((string standardQuote).parse rest).andThen fun _ final =>
            .success pieces.flatten final := by
  simp only [standardString, quotedString, parse_drop, parse_keep, parse_succeed,
    Outcome.andThen_success, Outcome.andThen_assoc]
  rfl

/-- Four hexadecimal digits number a code point. -/
theorem toNat_ofNat_hexadecimal {digits : Text} (four : digits.length = 4) (run : Run isHexadecimal digits) :
    (CodePoint.ofNat (hexadecimalPositionalValue digits)).toNat = hexadecimalPositionalValue digits := by
  have small := hexadecimalPositionalValue_lt run
  rw [four] at small
  exact CodePoint.toNat_ofNat small

theorem reads_unicodeEscape : Reads unicodeEscape fun text value =>
    ∃ digits, text = ("u" : Text) ++ digits ∧ digits.length = 4 ∧ Run isHexadecimal digits ∧
      ∃ point : CodePoint, value = [point] ∧ point.toNat = hexadecimalPositionalValue digits := by
  intro source value rest parsed
  simp only [unicodeEscape, parse_keep, parse_drop, parse_succeed, Outcome.andThen_success,
    Outcome.andThen_assoc, Outcome.andThen_eq_success] at parsed
  obtain ⟨_, _, readMark, first, _, readFirst, second, _, readSecond, third, _, readThird, fourth, _,
    readFourth, done⟩ := parsed
  cases done
  obtain ⟨_, rfl, rfl, -⟩ := Reads.string _ readMark
  obtain ⟨_, rfl, rfl, one⟩ := Reads.takeIf _ readFirst
  obtain ⟨_, rfl, rfl, two⟩ := Reads.takeIf _ readSecond
  obtain ⟨_, rfl, rfl, three⟩ := Reads.takeIf _ readThird
  obtain ⟨_, rfl, rfl, four⟩ := Reads.takeIf _ readFourth
  have run : Run isHexadecimal [first, second, third, fourth] := by simp [one, two, three, four]
  rw [hexadecimalValue_eq_positionalValue run]
  exact ⟨("u" : Text) ++ [first, second, third, fourth], by simp, _, rfl, rfl, run, _, rfl,
    toNat_ofNat_hexadecimal rfl run⟩

theorem reads_escapeSequence :
    Reads (escapeSequence standardEscapes standardEscape) StringUnit := by
  intro source value rest parsed
  simp only [escapeSequence, parse_keep, parse_drop, parse_succeed, Outcome.andThen_success,
    Outcome.andThen_assoc, Outcome.andThen_eq_success] at parsed
  obtain ⟨_, _, readEscape, meaning, _, readMeaning, done⟩ := parsed
  cases done
  obtain ⟨_, rfl, rfl, -⟩ := Reads.string _ readEscape
  have reads : Reads (oneOf ((standardEscapes.map fun entry => (string entry.1).map fun _ => entry.2) ++
      [unicodeEscape])) fun text value => StringUnit (standardEscape ++ text) value := by
    refine Reads.oneOf fun alternative member => ?_
    rcases List.mem_append.1 member with listed | last
    · obtain ⟨entry, known, rfl⟩ := List.mem_map.1 listed
      refine ((Reads.string entry.1).map _).mono ?_
      intro text value reading
      obtain ⟨_, ⟨rfl, -⟩, rfl⟩ := reading
      exact .escape known
    · cases List.mem_singleton.1 last
      refine reads_unicodeEscape.mono ?_
      intro text value reading
      obtain ⟨digits, rfl, four, run, point, rfl, number⟩ := reading
      rw [← List.append_assoc]
      exact .numbered four run number
  obtain ⟨text, rfl, unit⟩ := reads readMeaning
  exact ⟨_, by simp, unit⟩

/-- A run of plain code points is a sequence of units. -/
theorem sequence_plain (run : Run isStandardPlain text) :
    Sequence StringUnit text (text.map fun point => [point]) := by
  induction text with
  | nil => exact .nil
  | cons point points inductionHypothesis =>
      obtain ⟨plain, run⟩ := run_cons.1 run
      simp only [isPlain, Bool.and_eq_true, bne_iff_ne] at plain
      exact .cons (.plain plain.1 plain.2) (inductionHypothesis run)

theorem reads_stringPiece : Reads stringPiece fun text value =>
    ∃ parts, Sequence StringUnit text parts ∧ parts.flatten = value := by
  refine Reads.oneOf fun alternative member => ?_
  simp only [List.mem_cons, List.not_mem_nil, or_false] at member
  rcases member with rfl | rfl
  · refine reads_escapeSequence.mono ?_
    intro text value unit
    exact ⟨[value], by simpa using Sequence.cons unit .nil, by simp⟩
  · refine (Reads.takeIfAndWhile _).mono ?_
    intro text value reading
    obtain ⟨rfl, -, run⟩ := reading
    exact ⟨_, sequence_plain run, by rw [← List.flatMap_def, List.flatMap_singleton']⟩

/-- The pieces of a string split into its units. -/
theorem units_of_pieces {values : List Text}
    (pieces : Sequence (fun text value => ∃ parts, Sequence StringUnit text parts ∧ parts.flatten = value)
      text values) : ∃ parts, Sequence StringUnit text parts ∧ parts.flatten = values.flatten := by
  induction pieces with
  | nil => exact ⟨[], .nil, rfl⟩
  | cons first others inductionHypothesis =>
      obtain ⟨left, here, rfl⟩ := first
      obtain ⟨right, there, equal⟩ := inductionHypothesis
      exact ⟨left ++ right, here.append there, by simp [equal]⟩

theorem reads_standardString : Reads standardString StringText := by
  intro source value rest parsed
  simp only [parse_standardString, Outcome.andThen_eq_success] at parsed
  obtain ⟨_, _, readOpening, pieces, _, readContent, _, _, readClosing, done⟩ := parsed
  cases done
  obtain ⟨_, rfl, rfl, -⟩ := Reads.string _ readOpening
  obtain ⟨content, rfl, repeated⟩ := reads_stringPiece.many (Reads.succeed ()) readContent
  obtain ⟨_, rfl, rfl, -⟩ := Reads.string _ readClosing
  obtain ⟨parts, units, equal⟩ := units_of_pieces (repeated.sequence fun between => between.1)
  rw [← equal]
  exact ⟨_, by simp, .quoted units⟩

/-- A string begins with a quote. -/
theorem StringText.apart {meaning : Text} {other : CodePoint → Bool} (quoted : StringText text meaning)
    (outside : Apart other standardQuote) : Apart other text := by
  obtain ⟨units⟩ := quoted
  exact (outside.append _).append _

theorem parse_hexadecimalDigit {point : CodePoint} (accepted : isHexadecimal point = true) (rest : Text) :
    hexadecimalDigit.parse (point :: rest) = .success point rest := by
  simp [hexadecimalDigit, takeIf, accepted]

theorem parse_unicodeEscape {digits : Text} {point : CodePoint} (four : digits.length = 4)
    (run : Run isHexadecimal digits) (number : point.toNat = hexadecimalPositionalValue digits) (rest : Text) :
    unicodeEscape.parse (("u" : Text) ++ (digits ++ rest)) = .success [point] rest := by
  rw [← point.ofNat_toNat, number, ← hexadecimalValue_eq_positionalValue run]
  match digits, four with
  | [first, second, third, fourth], _ =>
      simp only [run_cons] at run
      obtain ⟨one, two, three, four, -⟩ := run
      have readMark := parse_string_append "u" (first :: second :: third :: fourth :: rest)
      simp only [unicodeEscape, parse_keep, parse_drop, parse_succeed, Outcome.andThen_success,
        List.cons_append, List.nil_append, readMark, parse_hexadecimalDigit one, parse_hexadecimalDigit two,
        parse_hexadecimalDigit three, parse_hexadecimalDigit four]

theorem parse_escapeSequence {name meaning : Text} (known : (name, meaning) ∈ standardEscapes) (rest : Text) :
    (escapeSequence standardEscapes standardEscape).parse (standardEscape ++ (name ++ rest)) =
      .success meaning rest := by
  simp only [standardEscapes, List.mem_cons, Prod.mk.injEq, List.not_mem_nil, or_false] at known
  rcases known with ⟨rfl, rfl⟩ | ⟨rfl, rfl⟩ | ⟨rfl, rfl⟩ | ⟨rfl, rfl⟩ | ⟨rfl, rfl⟩ | ⟨rfl, rfl⟩ |
    ⟨rfl, rfl⟩ | ⟨rfl, rfl⟩
  all_goals rfl

/-- No escape of the table begins with the mark of a numbered escape. -/
theorem refuses_escapes (rest : Text) :
    ∀ alternative ∈ standardEscapes.map fun entry => (string entry.1).map fun _ => entry.2,
      Refuses alternative (("u" : Text) ++ rest) := by
  intro alternative member
  simp only [standardEscapes, List.map_cons, List.map_nil, List.mem_cons, List.not_mem_nil, or_false] at member
  rcases member with rfl | rfl | rfl | rfl | rfl | rfl | rfl | rfl
  all_goals exact ⟨_, rfl⟩

theorem parse_escapeSequence_numbered {digits : Text} {point : CodePoint} (four : digits.length = 4)
    (run : Run isHexadecimal digits) (number : point.toNat = hexadecimalPositionalValue digits) (rest : Text) :
    (escapeSequence standardEscapes standardEscape).parse
        (standardEscape ++ (("u" : Text) ++ digits ++ rest)) = .success [point] rest := by
  have passed := parse_oneOf_append unicodeEscape (refuses_escapes (digits ++ rest))
  have readEscape := parse_string_append standardEscape (("u" : Text) ++ (digits ++ rest))
  simp only [escapeSequence, parse_keep, parse_drop, parse_succeed, Outcome.andThen_success,
    List.append_assoc, readEscape, passed, parse_unicodeEscape four run number]

theorem stops_escape (rest : Text) : Stops isStandardPlain (standardEscape ++ rest) :=
  Stops.append (by decide) (by decide)

theorem stops_quote (rest : Text) : Stops isStandardPlain (standardQuote ++ rest) :=
  Stops.append (by decide) (by decide)

theorem refuses_escapeSequence {escape : Text} (escapes : EscapeTable) (apart : ¬ escape <+: source) :
    Refuses (escapeSequence escapes escape) source := by
  obtain ⟨reason, failed⟩ := refuses_string apart
  exact ⟨reason, by simp [escapeSequence, failed]⟩

/-- Plain code points in front of the rest of a string are read as one piece. -/
theorem parse_stringContent_plain {values : List Text} (run : Run isStandardPlain text)
    (stops : Stops isStandardPlain source) (read : stringContent.parse source = .success values rest) :
    ∃ all, stringContent.parse (text ++ source) = .success all rest ∧
      all.flatten = text ++ values.flatten := by
  cases text with
  | nil => exact ⟨values, read, rfl⟩
  | cons point points =>
      have plain := (run_cons.1 run).1
      have noEscape : ¬ standardEscape <+: point :: points ++ source := by
        rintro ⟨tail, equal⟩
        have head : CodePoint.scalar '\\' = point := (List.cons.inj equal).1
        rw [← head] at plain
        revert plain
        decide
      have piece : stringPiece.parse (point :: points ++ source) = .success (point :: points) source := by
        rw [stringPiece, (refuses_escapeSequence standardEscapes noEscape).parse_oneOf]
        exact parse_takeIfAndWhile_run run (by simp) stops
      refine ⟨(point :: points) :: values, ?_, rfl⟩
      have unit : (stringPiece.drop (succeed ())).parse (point :: points ++ source) =
          .success (point :: points) source := by
        rw [parse_drop, piece]
        rfl
      have shorter : source.length < (point :: points ++ source).length := by
        simp only [List.length_append, List.length_cons]
        omega
      exact parse_many_cons unit shorter read

/-- Plain code points and an escape are read in front of the rest of a string. -/
theorem parse_stringContent_escape {escape final : Text} {meaning : Text} {values : List Text}
    (run : Run isStandardPlain text)
    (readEscape : (escapeSequence standardEscapes standardEscape).parse
      (standardEscape ++ (escape ++ rest)) = .success meaning rest)
    (read : stringContent.parse rest = .success values final) :
    ∃ all, stringContent.parse (text ++ (standardEscape ++ (escape ++ rest))) = .success all final ∧
      all.flatten = text ++ (meaning ++ values.flatten) := by
  have piece : stringPiece.parse (standardEscape ++ (escape ++ rest)) = .success meaning rest :=
    parse_oneOf_first _ readEscape
  have unit : (stringPiece.drop (succeed ())).parse (standardEscape ++ (escape ++ rest)) =
      .success meaning rest := by
    rw [parse_drop, piece]
    rfl
  have mark : 0 < standardEscape.length := by decide
  have shorter : rest.length < (standardEscape ++ (escape ++ rest)).length := by
    simp only [List.length_append]
    omega
  have escaped : stringContent.parse (standardEscape ++ (escape ++ rest)) =
      .success (meaning :: values) final := parse_many_cons unit shorter read
  exact parse_stringContent_plain run (stops_escape (escape ++ rest)) escaped

/-- The units of a string are read up to the closing quote. -/
theorem parse_stringContent {content : Text} {parts : List Text} (units : Sequence StringUnit content parts)
    (run : Run isStandardPlain text) (rest : Text) :
    ∃ values, stringContent.parse (text ++ (content ++ (standardQuote ++ rest))) =
        .success values (standardQuote ++ rest) ∧ values.flatten = text ++ parts.flatten := by
  -- The plain code points in front of the units belong to the same piece.
  induction units generalizing text with
  | nil =>
      have closing : stringContent.parse (standardQuote ++ rest) = .success [] (standardQuote ++ rest) := by
        have refuses : Refuses stringPiece (standardQuote ++ rest) := ⟨_, rfl⟩
        exact refuses.parse_many _
      exact parse_stringContent_plain run (stops_quote rest) closing
  | @cons unitText others meaning parts unit units inductionHypothesis =>
      cases unit with
      | @plain point noQuote noEscape =>
          have plain : isStandardPlain point = true := by simp [isPlain, noQuote, noEscape]
          have longer : Run isStandardPlain (text ++ [point]) := by simp [run, plain]
          obtain ⟨values, read, equal⟩ := inductionHypothesis longer
          exact ⟨values, by simpa using read, by simpa using equal⟩
      | escape known =>
          obtain ⟨values, read, equal⟩ := inductionHypothesis run_nil
          rw [List.flatten_cons, ← List.nil_append parts.flatten, ← equal]
          simpa using parse_stringContent_escape run (parse_escapeSequence known _) read
      | numbered four hexadecimal number =>
          obtain ⟨values, read, equal⟩ := inductionHypothesis run_nil
          rw [List.flatten_cons, ← List.nil_append parts.flatten, ← equal]
          have readEscape := parse_escapeSequence_numbered four hexadecimal number (others ++ (standardQuote ++ rest))
          simpa using parse_stringContent_escape run readEscape read

/-- A string is accepted, whatever stands behind it. -/
theorem parse_standardString_append {value : Text} (quoted : StringText text value) (rest : Text) :
    standardString.parse (text ++ rest) = .success value rest := by
  obtain ⟨units⟩ := quoted
  rename_i content parts
  obtain ⟨values, readContent, equal⟩ := parse_stringContent units run_nil rest
  have readOpening := parse_string_append standardQuote (content ++ (standardQuote ++ rest))
  have readClosing := parse_string_append standardQuote rest
  rw [List.nil_append] at readContent equal
  simp only [parse_standardString, List.append_assoc, readOpening, readContent, readClosing,
    Outcome.andThen_success, equal]

end ParserAlgebra.Parser
