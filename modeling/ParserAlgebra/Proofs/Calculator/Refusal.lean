import ParserAlgebra.Proofs.Calculator.Evaluation

namespace ParserAlgebra.Expression

open ParserAlgebra.Language ParserAlgebra.Parser Text

variable {source stand : Text} {reason : Failure}

/-- This test recognizes the minus sign. -/
def isMinus (point : CodePoint) : Bool :=
  point == CodePoint.scalar '-'

theorem stops_minus (refused : ¬ ("-" : Text) <+: source) : Stops isMinus source := by
  cases source with
  | nil => exact stops_nil
  | cons point points =>
      rw [stops_cons, isMinus, beq_eq_false_iff_ne]
      rintro rfl
      exact refused ⟨points, rfl⟩

/-- A factor is refused behind all the minus signs at its start, at any depth of parentheses there. -/
theorem factorParser_failure (failed : factorParser.parse source = .failure reason) :
    reason = literalFailure "-" (source.dropWhile isMinus) := by
  induction bound : source.length using Nat.strongRecOn generalizing source with
  | ind bound inductionHypothesis =>
      subst bound
      rw [factorParser, parse_fix, factorBody] at failed
      have last : (negated ((fix factorBody).below source.length)).parse source = .failure reason :=
        oneOf_failure_last (List.cons_ne_nil _ _) failed
      simp only [negated, parse_keep, parse_drop, parse_succeed, Outcome.andThen_success,
        Outcome.andThen_assoc, Outcome.andThen_eq_failure] at last
      rcases last with refused | ⟨_, middle, readMinus, inner | ⟨_, _, -, done⟩⟩
      · obtain ⟨apart, rfl⟩ := parse_string_eq_failure.1 refused
        rw [(stops_minus apart).dropWhile_eq]
      · have shorter : middle.length < source.length := length_behind_literal (by decide) readMinus
        rw [parse_below, if_pos shorter] at inner
        obtain ⟨_, rfl, rfl, -⟩ := Reads.string "-" readMinus
        have skipped : (("-" : Text) ++ middle).dropWhile isMinus = middle.dropWhile isMinus := rfl
        rw [skipped]
        exact inductionHypothesis _ shorter inner rfl
      · cases done

/-- A chain is refused as its first operand is, since the operations behind it never fail. -/
theorem chain_failure {operand : Parser Expression} {between : List Text}
    (failed : (chain operand between).parse source = .failure reason) : operand.parse source = .failure reason := by
  simp only [chain, parse_keep, parse_succeed, Outcome.andThen_success, Outcome.andThen_assoc,
    Outcome.andThen_eq_failure] at failed
  rcases failed with here | ⟨first, middle, -, others | ⟨_, _, -, done⟩⟩
  · exact here
  · exact absurd others (parse_many_ne_failure _ _ _ _)
  · cases done

theorem expressionParser_failure (failed : expressionParser.parse source = .failure reason) :
    reason = literalFailure "-" (source.dropWhile isMinus) :=
  factorParser_failure (chain_failure (chain_failure failed))

/-- A whole input is parsed by its expression, and by what stands behind the expression and its spaces. -/
theorem parse_wholeExpression (source : Text) :
    wholeExpression.parse source =
      match expressionParser.parse (source.dropWhile isSpace) with
      | .success tree rest =>
          if rest.dropWhile isSpace = [] then .success tree []
          else .failure (.expected "end of file" (rest.dropWhile isSpace))
      | .failure _ => .failure (literalFailure "-" ((source.dropWhile isSpace).dropWhile isMinus))
      | .fault fault => .fault fault := by
  simp only [wholeExpression, parse_keep, parse_drop, parse_succeed, parse_spaces, Outcome.andThen_success]
  cases parsed : expressionParser.parse (source.dropWhile isSpace) with
  | success tree rest =>
      simp only [Outcome.andThen_success]
      cases rest.dropWhile isSpace <;> rfl
  | failure reason =>
      rw [expressionParser_failure parsed]
      rfl
  | fault fault => rfl

/-- The calculator fails where the computation of an expression does, where no expression stands, and where
something stands behind the expression. -/
theorem evaluate_eq_failure_iff :
    (evaluate source).value = .failure reason ↔
      (∃ tree, wholeExpression.parse source = .success tree [] ∧ tree.verdict = .failure reason) ∨
      (reason = .expected "starts with '-'" ((source.dropWhile isSpace).dropWhile isMinus) ∧
        Refuses expressionParser (source.dropWhile isSpace)) ∨
      ∃ tree rest, expressionParser.parse (source.dropWhile isSpace) = .success tree rest ∧
        rest.dropWhile isSpace ≠ [] ∧ reason = .expected "end of file" (rest.dropWhile isSpace) := by
  rw [value_evaluate, parse_wholeExpression]
  cases parsed : expressionParser.parse (source.dropWhile isSpace) with
  | success tree rest =>
      have accepted : ¬ Refuses expressionParser (source.dropWhile isSpace) := by
        rintro ⟨_, refused⟩
        rw [parsed] at refused
        cases refused
      dsimp only
      by_cases nothing : rest.dropWhile isSpace = []
      · rw [if_pos nothing]
        constructor
        · intro computed
          exact .inl ⟨tree, rfl, computed⟩
        · rintro (⟨_, same, computed⟩ | ⟨-, refused⟩ | ⟨_, _, same, more, -⟩)
          · cases same
            exact computed
          · exact absurd refused accepted
          · cases same
            exact absurd nothing more
      · rw [if_neg nothing]
        constructor
        · intro failed
          cases failed
          exact .inr (.inr ⟨tree, rest, rfl, nothing, rfl⟩)
        · rintro (⟨_, same, -⟩ | ⟨-, refused⟩ | ⟨_, _, same, -, rfl⟩)
          · cases same
          · exact absurd refused accepted
          · cases same
            rfl
  | failure first =>
      constructor
      · intro failed
        cases failed
        exact .inr (.inl ⟨rfl, first, parsed⟩)
      · rintro (⟨_, same, -⟩ | ⟨rfl, -⟩ | ⟨_, _, same, -⟩)
        · cases same
        · rfl
        · cases same
  | fault fault =>
      constructor
      · intro failed
        cases failed
      · rintro (⟨_, same, -⟩ | ⟨-, _, refused⟩ | ⟨_, _, same, -⟩)
        · cases same
        · rw [parsed] at refused
          cases refused
        · cases same

/-- Failures from inside an operand: the input ends, a code point is refused, or a parenthesis is missed. -/
def Inner (reason : Failure) : Prop :=
  reason = .endOfInput ∨ (∃ context, reason = .unexpected context) ∨
    ∃ stand, reason = literalFailure "(" stand ∨ reason = literalFailure ")" stand

theorem not_inner_zeroDivision : ¬ Inner zeroDivision := by
  simp [Inner, zeroDivision, literalFailure]

theorem not_inner_expected {what stand : Text} (opening : what ≠ "starts with '('")
    (closing : what ≠ "starts with ')'") : ¬ Inner (.expected what stand) := by
  rintro (missed | ⟨_, missed⟩ | ⟨_, missed | missed⟩)
  · cases missed
  · cases missed
  · exact opening (Failure.expected.inj missed).1
  · exact closing (Failure.expected.inj missed).1

/-- The calculator misses a minus sign only where no expression stands. -/
theorem evaluate_operand_iff :
    (evaluate source).value =
        .failure (.expected "starts with '-'" ((source.dropWhile isSpace).dropWhile isMinus)) ↔
      Refuses expressionParser (source.dropWhile isSpace) := by
  constructor
  · intro failed
    rcases evaluate_eq_failure_iff.1 failed with ⟨tree, -, computed⟩ | ⟨-, refused⟩ | ⟨_, _, -, -, other⟩
    · cases verdict_eq_failure computed
    · exact refused
    · exact absurd (Failure.expected.inj other).1 (by decide)
  · intro refused
    exact evaluate_eq_failure_iff.2 (.inr (.inl ⟨rfl, refused⟩))

/-- The calculator misses the end of the text only where something stands behind an expression. -/
theorem evaluate_leftover_iff :
    (evaluate source).value = .failure (.expected "end of file" stand) ↔
      ∃ tree rest, expressionParser.parse (source.dropWhile isSpace) = .success tree rest ∧
        stand = rest.dropWhile isSpace ∧ stand ≠ [] := by
  constructor
  · intro failed
    rcases evaluate_eq_failure_iff.1 failed with ⟨tree, -, computed⟩ | ⟨other, -⟩ | ⟨tree, rest, read, more, same⟩
    · cases verdict_eq_failure computed
    · exact absurd (Failure.expected.inj other).1 (by decide)
    · cases same
      exact ⟨tree, rest, read, rfl, more⟩
  · rintro ⟨tree, rest, read, rfl, more⟩
    exact evaluate_eq_failure_iff.2 (.inr (.inr ⟨tree, rest, read, more, rfl⟩))

/-- The calculator fails with a division by zero, or misses something at an end of the text. -/
theorem evaluate_failure_cases (failed : (evaluate source).value = .failure reason) :
    reason = zeroDivision ∨ ∃ what stand, reason = .expected what stand ∧
      (what = ("starts with '-'" : Text) ∧ stand = (source.dropWhile isSpace).dropWhile isMinus ∨
        what = ("end of file" : Text) ∧ stand ≠ [] ∧ Stops isSpace stand) ∧
      stand <:+ source := by
  have within : source.dropWhile isSpace <:+ source := List.dropWhile_suffix isSpace
  rcases evaluate_eq_failure_iff.1 failed with ⟨tree, -, computed⟩ | ⟨rfl, -⟩ | ⟨tree, rest, read, more, rfl⟩
  · exact .inl (verdict_eq_failure computed)
  · have suffix : (source.dropWhile isSpace).dropWhile isMinus <:+ source :=
      (List.dropWhile_suffix isMinus).trans within
    exact .inr ⟨_, _, rfl, .inl ⟨rfl, rfl⟩, suffix⟩
  · have suffix : rest.dropWhile isSpace <:+ source :=
      (List.dropWhile_suffix isSpace).trans ((reads_expressionParser.suffix read).trans within)
    exact .inr ⟨_, _, rfl, .inr ⟨rfl, more, stops_dropWhile isSpace rest⟩, suffix⟩

/-- A text is refused where no expression stands, or behind the whole expression in front of it, or as a division by
zero. -/
theorem evaluate_failure_points (source : Text) :
    let start := source.dropWhile isSpace
    ((evaluate source).value = .failure (.expected "starts with '-'" (start.dropWhile isMinus)) ↔
      Refuses expressionParser start) ∧
    (∀ stand, (evaluate source).value = .failure (.expected "end of file" stand) ↔
      ∃ tree rest, expressionParser.parse start = .success tree rest ∧ stand = rest.dropWhile isSpace ∧
        stand ≠ []) ∧
    ∀ reason, (evaluate source).value = .failure reason → ¬ Inner reason ∧
      (reason = zeroDivision ∨ ∃ what stand, reason = .expected what stand ∧
        (what = ("starts with '-'" : Text) ∧ stand = start.dropWhile isMinus ∨
          what = ("end of file" : Text) ∧ stand ≠ [] ∧ Stops isSpace stand) ∧
        stand <:+ source ∧ reason.position source = some (source.length - stand.length)) := by
  intro start
  refine ⟨evaluate_operand_iff, fun _ => evaluate_leftover_iff, ?_⟩
  intro reason failed
  rcases evaluate_failure_cases failed with rfl | ⟨what, stand, rfl, place, suffix⟩
  · exact ⟨not_inner_zeroDivision, .inl rfl⟩
  · have outer : ¬ Inner (.expected what stand) := by
      rcases place with ⟨rfl, -⟩ | ⟨rfl, -, -⟩
      · exact not_inner_expected (by decide) (by decide)
      · exact not_inner_expected (by decide) (by decide)
    exact ⟨outer, .inr ⟨what, stand, rfl, place, suffix, Failure.position_of_suffix rfl suffix⟩⟩

/-- A missing operand in parentheses makes the whole expression fail in front of them, and an operator behind an
expression is left over when its operand fails. -/
theorem evaluate_failure_points_parentheses :
    let first : Text := "  --(1 + )"
    let later : Text := "2 - (1 + ) "
    let refused : Failure := .expected "starts with '-'" "(1 + )"
    let leftover : Failure := .expected "end of file" "- (1 + ) "
    (evaluate first).value = .failure refused ∧ Refuses expressionParser "--(1 + )" ∧ ¬ Inner refused ∧
      (evaluate later).value = .failure leftover ∧
      ∃ tree rest, expressionParser.parse "2 - (1 + ) " = .success tree rest ∧
        "- (1 + ) " = rest.dropWhile isSpace := by
  intro first later refused leftover
  have failedFirst : (evaluate first).value = .failure refused := by decide +kernel
  have failedLater : (evaluate later).value = .failure leftover := by decide +kernel
  obtain ⟨noOperand, -, inside⟩ := evaluate_failure_points first
  obtain ⟨-, behind, -⟩ := evaluate_failure_points later
  obtain ⟨tree, rest, read, stands, -⟩ := (behind _).1 failedLater
  exact ⟨failedFirst, noOperand.1 failedFirst, (inside refused failedFirst).1, failedLater, tree, rest, read, stands⟩

end ParserAlgebra.Expression
