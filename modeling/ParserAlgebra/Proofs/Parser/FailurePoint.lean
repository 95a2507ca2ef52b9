import ParserAlgebra.Proofs.Parser.Composition

namespace ParserAlgebra.Parser

open Text

variable {α β : Type} {allowed : Failure → Prop} {source stand rest : Text} {reason : Failure}

/-- A parser fails on a source in a primitive step, or in a choice without alternatives, that stood at a rest of
it. -/
inductive FailsAt (allowed : Failure → Prop) :
    {α : Type} → Parser α → Text → Failure → Text → Prop where
  | primitive {α : Type} {parser : Parser α} {source : Text} {reason : Failure}
      (primitive : Primitive allowed parser) (failed : parser.parse source = .failure reason) :
      FailsAt allowed parser source reason source
  | rename {α : Type} {parser : Parser α} {source stand : Text} {reason : Failure}
      (name : Option Text) (inner : FailsAt allowed parser source reason stand) :
      FailsAt allowed (parser.rename name) source reason stand
  | transform {α β : Type} {parser : Parser α} {source stand : Text} {reason : Failure} (f : α → β)
      (inner : FailsAt allowed parser source reason stand) :
      FailsAt allowed (parser.transform f) source reason stand
  | raising {α : Type} {parser : Parser (Except Fault α)} {source stand : Text} {reason : Failure}
      (inner : FailsAt allowed parser source reason stand) :
      FailsAt allowed parser.raising source reason stand
  | andThenFirst {α β : Type} {parser : Parser α} {source stand : Text} {reason : Failure}
      (next : α → Parser β) (first : FailsAt allowed parser source reason stand) :
      FailsAt allowed (parser.andThen next) source reason stand
  | andThenSecond {α β : Type} {parser : Parser α} {next : α → Parser β} {source middle stand : Text}
      {value : α} {reason : Failure} (composed : Composed allowed parser)
      (read : parser.parse source = .success value middle)
      (second : FailsAt allowed (next value) middle reason stand) :
      FailsAt allowed (parser.andThen next) source reason stand
  | map2First {α β γ : Type} {left : Parser α} {source stand : Text} {reason : Failure}
      (f : α → β → γ) (right : Parser β) (first : FailsAt allowed left source reason stand) :
      FailsAt allowed (map2 f left right) source reason stand
  | map2Second {α β γ : Type} {left : Parser α} {right : Parser β} {source middle stand : Text}
      {value : α} {reason : Failure} (f : α → β → γ) (composed : Composed allowed left)
      (read : left.parse source = .success value middle)
      (second : FailsAt allowed right middle reason stand) :
      FailsAt allowed (map2 f left right) source reason stand
  | delayed {α : Type} {unfold : Text → Parser α} {source stand : Text} {reason : Failure}
      (inner : FailsAt allowed (unfold source) source reason stand) :
      FailsAt allowed (delayed fun source => (unfold source).step source) source reason stand
  | noAlternative {α : Type} (source : Text) :
      FailsAt allowed (oneOf [] : Parser α) source noAlternative source
  | lastAlternative {α : Type} {others : List (Parser α)} {last : Parser α} {source stand : Text}
      {reason : Failure}
      (refused : ∀ other ∈ others, Refuses other source)
      (inner : FailsAt allowed last source reason stand) :
      FailsAt allowed (oneOf (others ++ [last])) source reason stand

/-- A choice that fails is empty, or all its alternatives fail and the last failure is kept. -/
theorem oneOf_failure {alternatives : List (Parser α)}
    (failed : (oneOf alternatives).parse source = .failure reason) :
    alternatives = [] ∧ reason = noAlternative ∨
      ∃ others last, alternatives = others ++ [last] ∧ last.parse source = .failure reason ∧
        ∀ other ∈ others, Refuses other source := by
  induction alternatives with
  | nil =>
      cases failed
      exact .inl ⟨rfl, rfl⟩
  | cons first others inductionHypothesis =>
      right
      cases others with
      | nil => exact ⟨[], first, rfl, failed, by simp⟩
      | cons second others =>
          rw [parse_oneOf_cons_cons, Outcome.orElse_eq_failure] at failed
          obtain ⟨here, failedFirst, failedOthers⟩ := failed
          rcases inductionHypothesis failedOthers with ⟨none, -⟩ | ⟨before, last, shape, failedLast, refused⟩
          · cases none
          · refine ⟨first :: before, last, by simp [shape], failedLast, ?_⟩
            intro other member
            rcases List.mem_cons.1 member with rfl | member
            · exact ⟨here, failedFirst⟩
            · exact refused other member

/-- A choice that fails has the failure of its last alternative. -/
theorem oneOf_failure_last {alternatives : List (Parser α)} (nonempty : alternatives ≠ [])
    (failed : (oneOf alternatives).parse source = .failure reason) :
    (alternatives.getLast nonempty).parse source = .failure reason := by
  rcases oneOf_failure failed with ⟨none, -⟩ | ⟨others, last, rfl, failedLast, -⟩
  · exact absurd none nonempty
  · rwa [List.getLast_concat]

/-- A parser fails with the failure of the step in which it fails. -/
theorem FailsAt.failed {parser : Parser α} (fails : FailsAt allowed parser source reason stand) :
    parser.parse source = .failure reason := by
  induction fails with
  | primitive _ failed => exact failed
  | rename name _ failed => exact failed
  | transform f _ failed => simp [failed]
  | raising _ failed => simp [failed]
  | andThenFirst next _ failed => simp [failed]
  | andThenSecond _ read _ failed => simp [read, failed]
  | map2First f right _ failed => simp [failed]
  | map2Second f _ read _ failed => simp [read, failed]
  | delayed _ failed => exact failed
  | noAlternative source => rfl
  | lastAlternative refused _ failed => rw [parse_oneOf_append _ refused, failed]

/-- Each step stands at an end of the source. -/
theorem FailsAt.suffix {parser : Parser α} (fails : FailsAt allowed parser source reason stand) :
    stand <:+ source := by
  induction fails with
  | primitive | noAlternative => exact List.suffix_refl _
  | rename _ _ inner | transform _ _ inner | raising _ inner | andThenFirst _ _ inner
  | map2First _ _ _ inner | delayed _ inner | lastAlternative _ _ inner => exact inner
  | andThenSecond composed read _ inner | map2Second _ composed read _ inner =>
      exact inner.trans (composed.reads.suffix read)

/-- A composed parser that fails does so in some step. -/
theorem Composed.failsAt {parser : Parser α} (composed : Composed allowed parser)
    (failed : parser.parse source = .failure reason) :
    ∃ stand, FailsAt allowed parser source reason stand := by
  induction composed generalizing source with
  | primitive primitive => exact ⟨source, .primitive primitive failed⟩
  | rename name _ inner =>
      obtain ⟨stand, fails⟩ := inner failed
      exact ⟨stand, .rename name fails⟩
  | transform f _ inner =>
      rw [parse_transform, Outcome.andThen_eq_failure] at failed
      rcases failed with failed | ⟨_, _, _, done⟩
      · obtain ⟨stand, fails⟩ := inner failed
        exact ⟨stand, .transform f fails⟩
      · cases done
  | raising _ inner =>
      rw [parse_raising, Outcome.andThen_eq_failure] at failed
      rcases failed with failed | ⟨result, _, _, done⟩
      · obtain ⟨stand, fails⟩ := inner failed
        exact ⟨stand, .raising fails⟩
      · cases result <;> cases done
  | andThen composed _ first second =>
      rw [parse_andThen, Outcome.andThen_eq_failure] at failed
      rcases failed with failed | ⟨value, middle, read, failed⟩
      · obtain ⟨stand, fails⟩ := first failed
        exact ⟨stand, .andThenFirst _ fails⟩
      · obtain ⟨stand, fails⟩ := second value failed
        exact ⟨stand, .andThenSecond composed read fails⟩
  | map2 f composed _ first second =>
      rw [parse_map2, Outcome.andThen_eq_failure] at failed
      rcases failed with failed | ⟨value, middle, read, failed⟩
      · obtain ⟨stand, fails⟩ := first failed
        exact ⟨stand, .map2First f _ fails⟩
      · rw [Outcome.andThen_eq_failure] at failed
        rcases failed with failed | ⟨_, _, _, done⟩
        · obtain ⟨stand, fails⟩ := second failed
          exact ⟨stand, .map2Second f composed read fails⟩
        · cases done
  | delayed _ each =>
      obtain ⟨stand, fails⟩ := each source failed
      exact ⟨stand, .delayed fails⟩
  | oneOf _ each =>
      rcases oneOf_failure failed with ⟨rfl, rfl⟩ | ⟨others, last, rfl, failedLast, refused⟩
      · exact ⟨source, .noAlternative source⟩
      · obtain ⟨stand, fails⟩ := each last (by simp) failedLast
        exact ⟨stand, .lastAlternative refused fails⟩
  | optional _ inner =>
      rw [parse_optional, Outcome.orElse_eq_failure] at failed
      obtain ⟨_, _, done⟩ := failed
      cases done
  | many _ _ first second => exact absurd failed (parse_many_ne_failure _ _ _ _)

/-- These failures do not tell where they happened. -/
def Unplaced (reason : Failure) : Prop :=
  reason.remaining = none

/-- The step stood at a numeral with too many digits and more input behind it, and the failure shows
the numeral without that input. -/
def CutShort (reason : Failure) (stand : Text) : Prop :=
  ∃ numeral after, stand = numeral ++ after ∧ after ≠ [] ∧ Run isDigit numeral ∧ Stops isDigit after ∧
    integerDigitLimit < numeral.length ∧ reason = .unexpected numeral

/-- An integer shows the input on which it fails, or is cut short. -/
theorem integerNumber_remaining (failed : integerNumber.parse source = .failure reason)
    (placed : reason.remaining = some rest) : rest = source ∨ CutShort reason source := by
  rcases stops_or_run isDigit source with stops | ⟨numeral, after, rfl, nonempty, run, stops⟩
  · by_cases nothing : source = []
    · subst nothing
      cases failed
      exact .inl (Option.some.inj placed).symm
    · rw [parse_integerNumber_stops nothing stops] at failed
      cases failed
      exact .inl (Option.some.inj placed).symm
  · by_cases short : numeral.length ≤ integerDigitLimit
    · rw [parse_integerNumber_append (.integer ⟨nonempty, run⟩ short) stops] at failed
      cases failed
    · have long : integerDigitLimit < numeral.length := Nat.lt_of_not_le short
      rw [parse_integerNumber_overlong run stops long] at failed
      cases failed
      by_cases last : after = []
      · rw [last, List.append_nil]
        exact .inl (Option.some.inj placed).symm
      · exact .inr ⟨numeral, after, rfl, last, run, stops, long, rfl⟩

/-- A primitive step that fails shows the input on which it stood, or is cut short. -/
theorem Primitive.remaining {parser : Parser α} (primitive : Primitive Unplaced parser)
    (failed : parser.parse source = .failure reason) (placed : reason.remaining = some rest) :
    rest = source ∨ CutShort reason source := by
  cases primitive with
  | integerNumber => exact integerNumber_remaining failed placed
  | anyPoint =>
      cases source with
      | nil =>
          cases failed
          exact .inl (Option.some.inj placed).symm
      | cons point points => cases failed
  | endOfFile =>
      cases source with
      | nil => cases failed
      | cons point points =>
          cases failed
          exact .inl (Option.some.inj placed).symm
  | string literal =>
      obtain ⟨-, rfl⟩ := parse_string_eq_failure.1 failed
      exact .inl (Option.some.inj placed).symm
  | takeIf test =>
      cases source with
      | nil =>
          cases failed
          exact .inl (Option.some.inj placed).symm
      | cons point points =>
          simp only [Parser.takeIf, parse_ofOutcome] at failed
          split at failed
          · cases failed
          · cases failed
            exact .inl (Option.some.inj placed).symm
  | takeWhile test => cases failed
  | succeed value => cases failed
  | abort fault => cases failed
  | fromOption value missing permitted =>
      cases value with
      | some value => cases failed
      | none =>
          cases failed
          rw [permitted rfl] at placed
          cases placed
  | fromResult result permitted =>
      cases result with
      | ok value => cases failed
      | error reason =>
          cases failed
          rw [permitted _ rfl] at placed
          cases placed
  | fromVerdict verdict permitted =>
      rw [parse_fromVerdict] at failed
      split at failed
      · cases failed
      · rename_i refused
        cases failed
        rw [permitted _ refused] at placed
        cases placed
      · cases failed

theorem FailsAt.remaining {parser : Parser α} (fails : FailsAt Unplaced parser source reason stand)
    (placed : reason.remaining = some rest) : rest = stand ∨ CutShort reason stand := by
  induction fails with
  | primitive primitive failed => exact primitive.remaining failed placed
  | noAlternative source => cases placed
  | rename _ _ inner | transform _ _ inner | raising _ inner | andThenFirst _ _ inner
  | andThenSecond _ _ _ inner | map2First _ _ _ inner | map2Second _ _ _ _ inner
  | delayed _ inner | lastAlternative _ _ inner => exact inner placed

/-- A failure that is cut short shows less than the input on which its step stood. -/
theorem CutShort.length_lt (cut : CutShort reason stand) (placed : reason.remaining = some rest) :
    rest.length < stand.length := by
  obtain ⟨numeral, after, rfl, more, -, -, -, rfl⟩ := cut
  cases placed
  have positive : 0 < after.length := List.length_pos_iff.2 more
  simp only [List.length_append]
  omega

/-- A composed parser that fails shows an end of the source at its position, if and only if the failure is not cut
short. -/
theorem failure_position_iff {parser : Parser α} (composed : Composed Unplaced parser)
    (failed : parser.parse source = .failure reason) (placed : reason.remaining = some rest) :
    (∃ stand, FailsAt Unplaced parser source reason stand) ∧
      ∀ stand, FailsAt Unplaced parser source reason stand → stand <:+ source ∧
        (rest <:+ source ∧ reason.position source = some (source.length - stand.length) ↔
          ¬ CutShort reason stand) := by
  refine ⟨composed.failsAt failed, ?_⟩
  intro stand fails
  have suffix := fails.suffix
  refine ⟨suffix, ?_⟩
  constructor
  · rintro ⟨-, position⟩ cut
    have shorter := cut.length_lt placed
    have within := suffix.length_le
    simp only [Failure.position, placed] at position
    split at position
    · have offset := Option.some.inj position
      omega
    · cases position
  · intro whole
    have same : rest = stand := (fails.remaining placed).resolve_right whole
    subst same
    exact ⟨suffix, Failure.position_of_suffix placed suffix⟩

/-- A failure behind a literal points behind the literal. -/
theorem failure_position_behind_literal :
    ((string "ab").drop integerNumber).parse "ab;" = .failure (.unexpected ";") ∧
      ∃ stand, FailsAt Unplaced ((string "ab").drop integerNumber) "ab;" (.unexpected ";") stand ∧
        ((";" : Text) <:+ ("ab;" : Text) ∧
            (Failure.unexpected ";").position "ab;" = some (("ab;" : Text).length - stand.length) ↔
          ¬ CutShort (.unexpected ";") stand) := by
  have composed : Composed Unplaced ((string "ab").drop integerNumber) :=
    (Composed.string _).drop .integerNumber
  have failed : ((string "ab").drop integerNumber).parse "ab;" = .failure (.unexpected ";") := by
    decide
  obtain ⟨⟨stand, fails⟩, points⟩ := failure_position_iff composed failed rfl
  exact ⟨failed, stand, fails, (points stand fails).2⟩

/-- A numeral with too many digits and one other code point behind it fails without a position. -/
theorem overlong_misplaced {numeral : Text} {point : CodePoint} (run : Run isDigit numeral)
    (long : integerDigitLimit < numeral.length) (other : isDigit point = false) :
    integerNumber.parse (numeral ++ [point]) = .failure (.unexpected numeral) ∧
      ¬ numeral <:+ numeral ++ [point] ∧
      (Failure.unexpected numeral).position (numeral ++ [point]) = none := by
  have apart : ¬ numeral <:+ numeral ++ [point] := by
    intro suffix
    rcases List.suffix_concat_iff.1 suffix with rfl | ⟨before, shape, -⟩
    · simp at long
    · have digit := run point (by simp [shape])
      rw [other] at digit
      cases digit
  refine ⟨parse_integerNumber_overlong run (by simpa using other) long, apart, ?_⟩
  simp [Failure.position, Failure.remaining, apart]

/-- One digit too many is enough: this failure shows a text that is no end of its source, and has no
position. -/
theorem failure_without_position :
    let numeral : Text := List.replicate 4301 (CodePoint.scalar '1')
    let source : Text := numeral ++ (";" : Text)
    Composed Unplaced integerNumber ∧ integerNumber.parse source = .failure (.unexpected numeral) ∧
      (Failure.unexpected numeral).remaining = some numeral ∧ ¬ numeral <:+ source ∧
      (Failure.unexpected numeral).position source = none := by
  intro numeral source
  have run : Run isDigit numeral := run_replicate rfl 4301
  have long : integerDigitLimit < numeral.length := by
    rw [List.length_replicate]
    decide
  obtain ⟨failed, apart, unplaced⟩ :=
    overlong_misplaced run long (show isDigit (CodePoint.scalar ';') = false from rfl)
  exact ⟨.integerNumber, failed, rfl, apart, unplaced⟩

end ParserAlgebra.Parser
