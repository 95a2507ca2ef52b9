import ParserAlgebra.Proofs.Parser.FailurePoint
import ParserAlgebra.Proofs.Parser.Quoted
import ParserAlgebra.Proofs.Parser.Token

namespace ParserAlgebra.Parser

open ParserAlgebra.Language Text

variable {α β σ : Type} {source : Text} {fault : Fault}

/-- A parser is steady if it never raises a fault. -/
def Steady (parser : Parser α) : Prop :=
  ∀ ⦃source fault⦄, parser.parse source ≠ .fault fault

/-- A choice raises the fault of one of its alternatives. -/
theorem oneOf_eq_fault {alternatives : List (Parser α)}
    (raised : (oneOf alternatives).parse source = .fault fault) :
    ∃ alternative ∈ alternatives, alternative.parse source = .fault fault := by
  induction alternatives with
  | nil => cases raised
  | cons first others inductionHypothesis =>
      cases others with
      | nil => exact ⟨first, by simp, raised⟩
      | cons second others =>
          rw [parse_oneOf_cons_cons, Outcome.orElse_eq_fault] at raised
          rcases raised with here | ⟨_, _, there⟩
          · exact ⟨first, by simp, here⟩
          · obtain ⟨alternative, member, raised⟩ := inductionHypothesis there
            exact ⟨alternative, by simp [member], raised⟩

/-- A choice raises the fault of its first alternative. -/
theorem parse_oneOf_fault {first : Parser α} (others : List (Parser α))
    (raised : first.parse source = .fault fault) :
    (oneOf (first :: others)).parse source = .fault fault := by
  cases others with
  | nil => exact raised
  | cons second others => simp [raised]

theorem transform_eq_fault {parser : Parser α} {f : α → β} :
    (parser.transform f).parse source = .fault fault ↔ parser.parse source = .fault fault := by
  rw [parse_transform]
  cases parser.parse source <;> simp

namespace Steady

theorem succeed (value : α) : Steady (succeed value) := by
  intro source fault raised
  cases raised

theorem string (literal : Text) : Steady (string literal) := by
  intro source fault raised
  rw [parse_string] at raised
  split at raised <;> cases raised

theorem endOfFile : Steady endOfFile := by
  intro source fault raised
  cases source <;> cases raised

theorem takeIf (test : CodePoint → Bool) : Steady (takeIf test) := by
  intro source fault raised
  cases source with
  | nil => cases raised
  | cons point points =>
      simp only [Parser.takeIf, parse_ofOutcome] at raised
      split at raised <;> cases raised

theorem takeWhile (test : CodePoint → Bool) : Steady (takeWhile test) := by
  intro source fault raised
  cases raised

theorem fromResult (result : Except Failure α) : Steady (fromResult result) := by
  intro source fault raised
  cases result <;> cases raised

theorem rename {parser : Parser α} (name : Option Text) (inner : Steady parser) :
    Steady (parser.rename name) :=
  inner

theorem transform {parser : Parser α} (f : α → β) (inner : Steady parser) :
    Steady (parser.transform f) :=
  fun _ _ raised => inner (transform_eq_fault.1 raised)

theorem map2 {γ : Type} {first : Parser α} {second : Parser β} (f : α → β → γ) (left : Steady first)
    (right : Steady second) : Steady (map2 f first second) := by
  intro source fault raised
  rw [parse_map2, Outcome.andThen_eq_fault] at raised
  rcases raised with raised | ⟨_, _, _, raised⟩
  · exact left raised
  · rw [Outcome.andThen_eq_fault] at raised
    rcases raised with raised | ⟨_, _, _, done⟩
    · exact right raised
    · cases done

theorem andThen {parser : Parser α} {next : α → Parser β} (first : Steady parser)
    (second : ∀ value, Steady (next value)) : Steady (parser.andThen next) := by
  intro source fault raised
  rw [parse_andThen, Outcome.andThen_eq_fault] at raised
  rcases raised with raised | ⟨value, _, _, raised⟩
  · exact first raised
  · exact second value raised

theorem oneOf {alternatives : List (Parser α)} (each : ∀ alternative ∈ alternatives, Steady alternative) :
    Steady (oneOf alternatives) := by
  intro source fault raised
  obtain ⟨alternative, member, raised⟩ := oneOf_eq_fault raised
  exact each alternative member raised

theorem optional {parser : Parser α} (inner : Steady parser) : Steady parser.optional := by
  intro source fault raised
  rw [parse_optional, Outcome.orElse_eq_fault] at raised
  rcases raised with raised | ⟨_, _, done⟩
  · rw [Outcome.andThen_eq_fault] at raised
    rcases raised with raised | ⟨_, _, _, done⟩
    · exact inner raised
    · cases done
  · cases done

theorem spaces : Steady spaces :=
  ((takeWhile isSpace).transform _).rename _

theorem whitespace : Steady whitespace :=
  ((takeWhile isWhitespace).transform _).rename _

theorem takeIfAndWhile (test : CodePoint → Bool) : Steady (takeIfAndWhile test) :=
  ((takeIf test).map2 _ (takeWhile test)).rename _

theorem digits : Steady digits :=
  takeIfAndWhile isDigit

theorem integerNumber : Steady integerNumber :=
  (digits.andThen fun numeral => fromResult (readInteger numeral)).rename _

theorem realNumber : Steady realNumber :=
  ((((succeed readReal).map2 _ digits).map2 _ (string ".")).map2 _ digits).rename _

theorem literals (literals : List Text) : Steady (Parser.oneOf (literals.map Parser.string)) := by
  refine oneOf fun alternative member => ?_
  obtain ⟨literal, -, rfl⟩ := List.mem_map.1 member
  exact string literal

end Steady

/-- A repetition that raises a fault has read elements with their separators, and raises the fault
behind them. -/
theorem many_eq_fault {element : Parser α} {separator : Parser σ} {language : Language α}
    {between : Language σ} (readsElement : Reads element language)
    (readsSeparator : Reads separator between)
    (raised : (many element separator).parse source = .fault fault) :
    ∃ front rest values, source = front ++ rest ∧
      Sequence (fun text value => ∃ start finish mark, text = start ++ finish ∧ language start value ∧
        between finish mark) front values ∧
      (element.drop separator).parse rest = .fault fault := by
  induction bound : source.length using Nat.strongRecOn generalizing source with
  | ind bound inductionHypothesis =>
      subst bound
      rw [parse_many] at raised
      split at raised
      · rename_i value middle unit
        obtain ⟨text, shape, here⟩ := readsElement.drop readsSeparator unit
        split at raised
        · rename_i shorter
          rw [Outcome.andThen_eq_fault] at raised
          rcases raised with raised | ⟨_, _, _, done⟩
          · obtain ⟨front, rest, values, rfl, sequence, behind⟩ :=
              inductionHypothesis _ shorter raised rfl
            exact ⟨text ++ front, rest, value :: values, by simp [shape], .cons here sequence, behind⟩
          · cases done
        · cases raised
      · rename_i reason failed
        split at raised
        · cases raised
        · cases raised
        · rename_i first alone
          rw [parse_drop, alone] at failed
          cases failed
      · rename_i first unit
        cases raised
        exact ⟨[], source, [], rfl, .nil, unit⟩

/-- A repetition is steady if its parts are. -/
theorem Steady.many {element : Parser α} {separator : Parser σ} {language : Language α}
    {between : Language σ} (readsElement : Reads element language)
    (readsSeparator : Reads separator between) (first : Steady element) (second : Steady separator) :
    Steady (many element separator) := by
  intro source fault raised
  obtain ⟨_, rest, _, -, -, behind⟩ := many_eq_fault readsElement readsSeparator raised
  exact first.map2 _ second behind

/-- A list that raises a fault has read items with commas behind them, and the next item raises the
fault. -/
theorem commas_eq_fault {item : Parser α} {language : Language α} (reads : Reads item language)
    (raised : (many item (string ",")).parse source = .fault fault) :
    ∃ front rest values, source = front ++ rest ∧ Sequence (Ended language) front values ∧
      item.parse rest = .fault fault := by
  obtain ⟨front, rest, values, shape, sequence, behind⟩ := many_eq_fault reads (Reads.string ",") raised
  refine ⟨front, rest, values, shape, sequence.mono ?_, ?_⟩
  · rintro _ value ⟨text, _, _, rfl, here, rfl, -⟩
    exact .ended here
  · rw [parse_drop, Outcome.andThen_eq_fault] at behind
    rcases behind with here | ⟨value, middle, -, behind⟩
    · exact here
    · rw [Outcome.andThen_eq_fault] at behind
      rcases behind with comma | ⟨_, _, -, done⟩
      · exact (Steady.string "," comma).elim
      · cases done

/-- What stands between an opening and a closing text raises the fault behind the opening text. -/
theorem bracketed_eq_fault {content : Parser α} {f : α → β} {opening closing : Text} :
    (((((succeed f).drop (string opening)).keep content).drop whitespace).drop (string closing)).parse source =
        .fault fault ↔
      ∃ rest, source = opening ++ rest ∧ content.parse rest = .fault fault := by
  constructor
  · intro raised
    by_cases opens : opening <+: source
    · obtain ⟨rest, rfl⟩ := opens
      refine ⟨rest, rfl, ?_⟩
      simp only [parse_keep, parse_drop, parse_succeed, Outcome.andThen_success, parse_string_append,
        parse_whitespace, Outcome.andThen_assoc, Outcome.andThen_eq_fault] at raised
      rcases raised with inner | ⟨_, _, -, raised⟩
      · exact inner
      · rcases raised with closed | ⟨_, _, -, done⟩
        · exact (Steady.string closing closed).elim
        · cases done
    · obtain ⟨reason, failed⟩ := refuses_string opens
      simp [failed] at raised
  · rintro ⟨rest, rfl, raised⟩
    simp [parse_string_append, raised]

/-- A token raises the fault of what stands behind the whitespace. -/
theorem token_eq_fault {parser : Parser α} :
    (token parser).parse source = .fault fault ↔
      parser.parse (source.dropWhile isWhitespace) = .fault fault := by
  rw [parse_token]
  cases parser.parse (source.dropWhile isWhitespace) <;> simp

/-- A repetition raises the fault of its first element. -/
theorem parse_many_fault {element : Parser α} (separator : Parser σ)
    (raised : element.parse source = .fault fault) :
    (many element separator).parse source = .fault fault := by
  simp [parse_many, raised]

/-- A list raises the fault of an item behind items that end with commas. -/
theorem parse_many_ended_fault {bound : Nat} {item : Parser α} {language : Language α} {follow : Text → Prop}
    {text rest : Text} {values : List α} (accepts : AcceptsTrimmed bound item language follow)
    (comma : ∀ rest, follow (("," : Text) ++ rest)) (ended : Sequence (Ended language) text values)
    (inside : (text ++ rest).length < bound) (raised : item.parse rest = .fault fault) :
    (many item (string ",")).parse (text ++ rest) = .fault fault := by
  rw [parse_many_ended accepts comma ended inside, parse_many_fault _ raised]
  rfl

theorem steady_unicodeEscape : Steady unicodeEscape := by
  have digit : Steady hexadecimalDigit := .takeIf _
  exact (((((Steady.succeed _).map2 _ (.string "u")).map2 _ digit).map2 _ digit).map2 _ digit).map2 _ digit

theorem steady_stringPiece : Steady stringPiece := by
  have escape : Steady (escapeSequence standardEscapes standardEscape) := by
    refine ((Steady.succeed _).map2 _ (.string _)).map2 _ (.oneOf fun alternative member => ?_)
    rcases List.mem_append.1 member with listed | last
    · obtain ⟨entry, -, rfl⟩ := List.mem_map.1 listed
      exact ((Steady.string entry.1).transform _).rename _
    · cases List.mem_singleton.1 last
      exact steady_unicodeEscape
  refine .oneOf fun alternative member => ?_
  simp only [List.mem_cons, List.not_mem_nil, or_false] at member
  rcases member with rfl | rfl
  · exact escape
  · exact .takeIfAndWhile _

/-- A quoted string raises no fault, however it is written. -/
theorem steady_standardString : Steady standardString := by
  have content : Steady stringContent :=
    .many reads_stringPiece (Reads.succeed ()) steady_stringPiece (.succeed ())
  exact (((Steady.succeed _).map2 _ (.string _)).map2 _ content).map2 _ (.string _)

/-- A failure that gives a reason has a description. -/
def Described (reason : Failure) : Prop :=
  ∃ sentence, reason.describe = .ok sentence

/-- The failure of something definite that was required has a description. -/
theorem described_expected (what got : Text) : Described (.expected what got) := by
  by_cases ended : got.isEmpty = true
  · exact ⟨_, if_pos ended⟩
  · exact ⟨_, if_neg ended⟩

theorem Primitive.described {parser : Parser α} {reason : Failure}
    (primitive : Primitive Described parser) (failed : parser.parse source = .failure reason) :
    Described reason := by
  cases primitive with
  | integerNumber =>
      rw [parse_integerNumber, Outcome.andThen_eq_failure] at failed
      rcases failed with failed | ⟨numeral, _, -, failed⟩
      · rw [digits, parse_takeIfAndWhile] at failed
        split at failed
        · cases failed
          exact ⟨_, rfl⟩
        · split at failed <;> cases failed
          exact ⟨_, rfl⟩
      · unfold readInteger at failed
        split at failed <;> cases failed
        exact ⟨_, rfl⟩
  | anyPoint =>
      cases source <;> cases failed
      exact ⟨_, rfl⟩
  | endOfFile =>
      cases source <;> cases failed
      exact ⟨_, rfl⟩
  | string literal =>
      obtain ⟨-, rfl⟩ := parse_string_eq_failure.1 failed
      exact described_expected _ source
  | takeIf test =>
      cases source with
      | nil =>
          cases failed
          exact ⟨_, rfl⟩
      | cons point points =>
          simp only [Parser.takeIf, parse_ofOutcome] at failed
          split at failed <;> cases failed
          exact ⟨_, rfl⟩
  | takeWhile test => cases failed
  | succeed value => cases failed
  | abort fault => cases failed
  | fromOption value missing permitted =>
      cases value <;> cases failed
      exact permitted rfl
  | fromResult result permitted =>
      cases result <;> cases failed
      exact permitted _ rfl
  | fromVerdict verdict permitted =>
      rw [parse_fromVerdict] at failed
      split at failed
      · cases failed
      · rename_i refused
        cases failed
        exact permitted _ refused
      · cases failed

theorem FailsAt.described {parser : Parser α} {reason : Failure} {stand : Text}
    (fails : FailsAt Described parser source reason stand) : Described reason := by
  induction fails with
  | primitive primitive failed => exact primitive.described failed
  | noAlternative source => exact ⟨_, rfl⟩
  | rename _ _ inner | transform _ _ inner | raising _ inner | andThenFirst _ _ inner
  | andThenSecond _ _ _ inner | map2First _ _ _ inner | map2Second _ _ _ _ inner
  | delayed _ inner | lastAlternative _ _ inner => exact inner

/-- A run raises the faults of its parser and no others, if lifted results have descriptions. -/
theorem value_run_eq_fault {parser : Parser α} (composed : Composed Described parser) :
    (run source parser).value = .fault fault ↔ parser.parse source = .fault fault := by
  rw [value_run]
  cases parsed : parser.parse source with
  | success value rest => simp
  | failure reason =>
      obtain ⟨stand, fails⟩ := composed.failsAt parsed
      obtain ⟨sentence, described⟩ := fails.described
      simp [described]
  | fault reason => simp

/-- A run then reports what its parser answers. -/
theorem value_run_composed {parser : Parser α} (composed : Composed Described parser) :
    (run source parser).value =
      match parser.parse source with
      | .success value _ => .ok value
      | .failure reason => .failure reason
      | .fault reason => .fault reason := by
  rw [value_run]
  cases parsed : parser.parse source with
  | success value rest => rfl
  | failure reason =>
      obtain ⟨stand, fails⟩ := composed.failsAt parsed
      obtain ⟨sentence, described⟩ := fails.described
      simp only [described]
  | fault reason => rfl

end ParserAlgebra.Parser
