import ParserAlgebra.Proofs.Calculator.Grammar
import ParserAlgebra.Proofs.Grammar.Composition
import ParserAlgebra.Proofs.Parser.Fault

namespace ParserAlgebra.Expression

open ParserAlgebra.Language ParserAlgebra.Parser Text

variable {source rest : Text} {fault : Fault} {tree : Expression}

/-- The operators of the calculator. -/
def operators : List Text := ["+", "-", "*", "/"]

/-- Every operator of the tree has a meaning. -/
def Known : Expression → Prop
  | number _ => True
  | binary operator left right => operator ∈ operators ∧ left.Known ∧ right.Known
  | negation operand => operand.Known

/-- The faults that a computation can raise. -/
def computationFaults : List Fault :=
  [.divisionByZero, .realDivisionByZero, .quotientTooLarge, .integerTooLarge]

/-- A sequence of computations raises the fault of its first part, or of the second part. -/
theorem bind_eq_error {α β : Type} {first : Except Fault α} {next : α → Except Fault β} :
    first >>= next = .error fault ↔
      first = .error fault ∨ ∃ value, first = .ok value ∧ next value = .error fault := by
  cases first <;> simp [bind, Except.bind]

theorem toDouble_eq_error {value : Number} (raised : value.toDouble = .error fault) :
    fault = .integerTooLarge := by
  cases value with
  | integer value =>
      simp only [Number.toDouble] at raised
      split at raised <;> cases raised
      rfl
  | real value => cases raised

/-- These operations raise faults of computations only. -/
def Computes {α : Type} (operation : α → α → Except Fault Number) : Prop :=
  ∀ ⦃left right fault⦄, operation left right = .error fault → fault ∈ computationFaults

/-- An operation raises the faults of its versions for integers and for doubles, or it cannot convert an
operand. -/
theorem computes_combine {onIntegers : Int → Int → Except Fault Number}
    {onReals : Double → Double → Except Fault Number} (integers : Computes onIntegers)
    (reals : Computes onReals) : Computes (Number.combine onIntegers onReals) := by
  intro left right fault raised
  unfold Number.combine at raised
  split at raised
  · exact integers raised
  · simp only [bind_eq_error] at raised
    rcases raised with failed | ⟨a, -, failed | ⟨b, -, raised⟩⟩
    · rw [toDouble_eq_error failed]
      decide
    · rw [toDouble_eq_error failed]
      decide
    · exact reals raised

theorem computes_ok {α : Type} (f : α → α → Number) : Computes fun left right => .ok (f left right) := by
  intro left right fault raised
  cases raised

theorem computes_divideIntegers : Computes Number.divideIntegers := by
  intro left right fault raised
  unfold Number.divideIntegers at raised
  split at raised
  · cases raised
    decide
  · dsimp only at raised
    split at raised <;> cases raised
    decide

theorem computes_divideReals : Computes Number.divideReals := by
  intro left right fault raised
  unfold Number.divideReals at raised
  split at raised <;> cases raised
  decide

/-- Every known operator has a meaning. -/
theorem known_operation {operator : Text} (known : operator ∈ operators) :
    ∃ operation, operation? operator = some operation ∧ Computes operation := by
  simp only [operators, List.mem_cons, List.not_mem_nil, or_false] at known
  rcases known with rfl | rfl | rfl | rfl
  · exact ⟨_, rfl, computes_combine (computes_ok _) (computes_ok _)⟩
  · exact ⟨_, rfl, computes_combine (computes_ok _) (computes_ok _)⟩
  · exact ⟨_, rfl, computes_combine (computes_ok _) (computes_ok _)⟩
  · exact ⟨_, rfl, computes_combine computes_divideIntegers computes_divideReals⟩

/-- A tree with known operators is computed, or raises one of the faults of computations. -/
theorem compute_eq_error (known : tree.Known) (raised : tree.compute = .error fault) :
    fault ∈ computationFaults := by
  induction tree with
  | number value => cases raised
  | binary operator left right leftHypothesis rightHypothesis =>
      obtain ⟨member, leftKnown, rightKnown⟩ := known
      obtain ⟨operation, found, computes⟩ := known_operation member
      simp only [compute, found, bind_eq_error] at raised
      rcases raised with here | ⟨a, -, here | ⟨b, -, here⟩⟩
      · exact leftHypothesis leftKnown here
      · exact rightHypothesis rightKnown here
      · exact computes here
  | negation operand inductionHypothesis =>
      simp only [compute, bind_eq_error] at raised
      rcases raised with here | ⟨value, -, done⟩
      · exact inductionHypothesis known here
      · cases done

/-- Divisions by zero are failures, and the other faults of a computation are kept. -/
theorem verdict_eq_fault : tree.verdict = .fault fault ↔
    tree.compute = .error fault ∧ fault ≠ .divisionByZero ∧ fault ≠ .realDivisionByZero := by
  unfold verdict
  constructor
  · intro raised
    split at raised <;> cases raised
    exact ⟨by assumption, by assumption, by assumption⟩
  · rintro ⟨raised, notInteger, notReal⟩
    rw [raised]
    split <;> simp_all

/-- Operands with known operators are joined by known operators. -/
theorem known_foldl {between : List Text} (within : ∀ operator ∈ between, operator ∈ operators) {text : Text}
    {first : Expression} {operations : List (Text × Expression)} (start : first.Known)
    (behind : Sequence (Operation between fun _ tree => tree.Known) text operations) :
    (operations.foldl (fun left operation => binary operation.1 left operation.2) first).Known := by
  -- The tree that was joined so far is the left operand of the next operation.
  induction behind generalizing first with
  | nil => exact start
  | cons next _ inductionHypothesis =>
      obtain ⟨-, member, -, operand⟩ := next
      exact inductionHypothesis ⟨within _ member, start, operand⟩

theorem known_chain {between : List Text} (within : ∀ operator ∈ between, operator ∈ operators) {text : Text}
    (chain : Chain between (fun _ tree => tree.Known) text tree) : tree.Known := by
  obtain ⟨start, behind⟩ := chain
  exact known_foldl within start behind

theorem reads_known_expressionOf {factor : Parser Expression} (reads : Reads factor fun _ tree => tree.Known) :
    Reads (expressionOf factor) fun _ tree => tree.Known := by
  have term : Reads (termOf factor) fun _ tree => tree.Known :=
    (reads_chain reads ["*", "/"]).mono (known_chain (by decide))
  exact (reads_chain term ["+", "-"]).mono (known_chain (by decide))

/-- Parsed trees have known operators, at any depth of parentheses. -/
theorem reads_known_factorParser : Reads factorParser fun _ tree => tree.Known := by
  refine Reads.fix fun {factor} reads => Reads.oneOf fun alternative member => ?_
  simp only [List.mem_cons, List.not_mem_nil, or_false] at member
  rcases member with rfl | rfl | rfl | rfl
  · refine (reads_realNumber.transform _).mono ?_
    rintro text _ ⟨value, -, rfl⟩
    trivial
  · refine (reads_integerNumber.transform _).mono ?_
    rintro text _ ⟨value, -, rfl⟩
    trivial
  · refine (reads_parenthesized (reads_known_expressionOf reads)).mono ?_
    rintro text tree ⟨_, _, _, -, -, known, -⟩
    exact known
  · refine (reads_negated reads).mono ?_
    rintro text _ ⟨_, operand, -, known, rfl⟩
    exact known

/-- An operation raises the fault of its operand. -/
theorem operationParser_eq_fault {operand : Parser Expression} {between : List Text}
    (raised : (operationParser operand between).parse source = .fault fault) :
    ∃ stand, stand <:+ source ∧ operand.parse stand = .fault fault := by
  simp only [operationParser, parse_keep, parse_drop, parse_succeed, parse_spaces, Outcome.andThen_success,
    Outcome.andThen_assoc, Outcome.andThen_eq_fault] at raised
  rcases raised with never | ⟨operator, middle, readOperator, inner | ⟨_, _, -, done⟩⟩
  · exact (Steady.literals between never).elim
  · refine ⟨_, ?_, inner⟩
    have behind := (Reads.literals between).suffix readOperator
    exact (List.dropWhile_suffix isSpace).trans (behind.trans (List.dropWhile_suffix isSpace))
  · cases done

/-- A chain raises the fault of one of its operands. -/
theorem chain_eq_fault {operand : Parser Expression} {language : Language Expression} {between : List Text}
    (reads : Reads operand language) (raised : (chain operand between).parse source = .fault fault) :
    ∃ stand, stand <:+ source ∧ operand.parse stand = .fault fault := by
  simp only [chain, parse_keep, parse_succeed, Outcome.andThen_success, Outcome.andThen_assoc,
    Outcome.andThen_eq_fault] at raised
  rcases raised with here | ⟨first, middle, readFirst, others | ⟨_, _, -, done⟩⟩
  · exact ⟨source, List.suffix_refl source, here⟩
  · obtain ⟨front, rest, _, rfl, -, behind⟩ :=
      many_eq_fault (reads_operationParser reads between) (Reads.succeed ()) others
    rw [parse_drop, Outcome.andThen_eq_fault] at behind
    rcases behind with operation | ⟨_, _, -, done⟩
    · obtain ⟨stand, suffix, raised⟩ := operationParser_eq_fault operation
      refine ⟨stand, ?_, raised⟩
      exact suffix.trans ((List.suffix_append front rest).trans (reads.suffix readFirst))
    · cases done
  · cases done

/-- An expression raises the fault of one of its factors. -/
theorem expressionOf_eq_fault {factor : Parser Expression} {language : Language Expression}
    (reads : Reads factor language) (raised : (expressionOf factor).parse source = .fault fault) :
    ∃ stand, stand <:+ source ∧ factor.parse stand = .fault fault := by
  obtain ⟨middle, within, term⟩ := chain_eq_fault (reads_chain reads _) raised
  obtain ⟨stand, inside, raised⟩ := chain_eq_fault reads term
  exact ⟨stand, inside.trans within, raised⟩

/-- Behind a literal the input is shorter. -/
theorem length_behind_literal {literal value : Text} (nonempty : 0 < literal.length)
    (read : (string literal).parse source = .success value rest) : rest.length < source.length := by
  obtain ⟨_, rfl, rfl, -⟩ := Reads.string literal read
  simp only [List.length_append]
  omega

theorem parenthesized_eq_fault {expression : Parser Expression}
    (raised : (parenthesized expression).parse source = .fault fault) :
    ∃ stand, stand.length < source.length ∧ expression.parse stand = .fault fault := by
  simp only [parenthesized, parse_keep, parse_drop, parse_succeed, parse_spaces, parse_delayed,
    Outcome.andThen_success, Outcome.andThen_assoc, Outcome.andThen_eq_fault] at raised
  rcases raised with never | ⟨_, middle, readOpening, inner | ⟨_, _, -, never | ⟨_, _, -, done⟩⟩⟩
  · exact (Steady.string "(" never).elim
  · have shorter := length_behind_literal (by decide) readOpening
    have trimmed := (List.dropWhile_suffix isSpace (l := middle)).length_le
    exact ⟨_, by omega, inner⟩
  · exact (Steady.string ")" never).elim
  · cases done

theorem negated_eq_fault {factor : Parser Expression} (raised : (negated factor).parse source = .fault fault) :
    ∃ stand, stand.length < source.length ∧ factor.parse stand = .fault fault := by
  simp only [negated, parse_keep, parse_drop, parse_succeed, Outcome.andThen_success,
    Outcome.andThen_assoc, Outcome.andThen_eq_fault] at raised
  rcases raised with never | ⟨_, middle, readMinus, inner | ⟨_, _, -, done⟩⟩
  · exact (Steady.string "-" never).elim
  · exact ⟨middle, length_behind_literal (by decide) readMinus, inner⟩
  · cases done

/-- A factor calls itself behind a parenthesis or a minus sign only, so its calls end and none of them
raises a fault. -/
theorem steady_factorParser : Steady factorParser := by
  intro source fault raised
  induction bound : source.length using Nat.strongRecOn generalizing source with
  | ind bound inductionHypothesis =>
      subst bound
      rw [factorParser, parse_fix] at raised
      have inner : ∀ {rest}, rest.length < source.length →
          ((fix factorBody).below source.length).parse rest ≠ .fault fault := by
        intro rest shorter behind
        rw [parse_below, if_pos shorter] at behind
        exact inductionHypothesis _ shorter behind rfl
      have reads : Reads ((fix factorBody).below source.length) Factor :=
        .below fun _ parsed => reads_factorParser parsed
      obtain ⟨alternative, member, raised⟩ := oneOf_eq_fault raised
      simp only [List.mem_cons, List.not_mem_nil, or_false] at member
      rcases member with rfl | rfl | rfl | rfl
      · exact Steady.realNumber.transform _ raised
      · exact Steady.integerNumber.transform _ raised
      · obtain ⟨middle, shorter, expression⟩ := parenthesized_eq_fault raised
        obtain ⟨stand, within, raised⟩ := expressionOf_eq_fault reads expression
        exact inner (Nat.lt_of_le_of_lt within.length_le shorter) raised
      · obtain ⟨stand, shorter, raised⟩ := negated_eq_fault raised
        exact inner shorter raised

theorem steady_wholeExpression : Steady wholeExpression := by
  have sum : Steady expressionParser := by
    intro source fault raised
    obtain ⟨stand, -, raised⟩ := expressionOf_eq_fault reads_factorParser raised
    exact steady_factorParser raised
  exact ((((Steady.succeed _).map2 _ .spaces).map2 _ sum).map2 _ .spaces).map2 _ .endOfFile

theorem known_of_parse (parsed : wholeExpression.parse source = .success tree rest) : tree.Known := by
  simp only [wholeExpression, parse_keep, parse_drop, parse_succeed, Outcome.andThen_success,
    Outcome.andThen_assoc, Outcome.andThen_eq_success] at parsed
  obtain ⟨_, _, _, inner, _, readInner, _, _, _, _, _, _, done⟩ := parsed
  cases done
  obtain ⟨_, -, known⟩ := reads_known_expressionOf reads_known_factorParser readInner
  exact known

/-- A run of the calculator raises a fault exactly if the text is an expression with an integer, or a
quotient of integers, that is too large for a double. -/
theorem evaluate_eq_fault_iff : (evaluate source).value = .fault fault ↔
    (fault = .quotientTooLarge ∨ fault = .integerTooLarge) ∧
      ∃ tree, wholeExpression.parse source = .success tree [] ∧ tree.compute = .error fault := by
  have run : (evaluate source).value = (run source calculation).value := rfl
  have described : Described zeroDivision := ⟨_, rfl⟩
  rw [run, value_run_eq_fault (composed_calculation described), calculation, parse_andThen,
    Outcome.andThen_eq_fault]
  constructor
  · rintro (raised | ⟨tree, rest, parsed, raised⟩)
    · exact (steady_wholeExpression raised).elim
    · obtain ⟨rfl, -⟩ := whole_of_parse parsed
      have computed : tree.verdict = .fault fault := by
        rw [parse_fromVerdict, Logged.value_pure] at raised
        split at raised <;> cases raised
        assumption
      obtain ⟨error, notInteger, notReal⟩ := verdict_eq_fault.1 computed
      refine ⟨?_, tree, parsed, error⟩
      have listed := compute_eq_error (known_of_parse parsed) error
      simp only [computationFaults, List.mem_cons, List.not_mem_nil, or_false] at listed
      rcases listed with listed | listed | large | large
      · exact absurd listed notInteger
      · exact absurd listed notReal
      · exact .inl large
      · exact .inr large
  · rintro ⟨large, tree, parsed, error⟩
    have computed : tree.verdict = .fault fault := by
      refine verdict_eq_fault.2 ⟨error, ?_⟩
      rcases large with rfl | rfl <;> decide
    refine .inr ⟨tree, [], parsed, ?_⟩
    rw [parse_fromVerdict, Logged.value_pure, computed]

end ParserAlgebra.Expression
