import ParserAlgebra.Proofs.Calculator.Grammar

namespace ParserAlgebra.Expression

open ParserAlgebra.Language ParserAlgebra.Parser Text

/-- Operators are told apart by a choice, and neither spaces nor numerals run into them. -/
structure Operators (operators : List Text) : Prop where
  read : ∀ operator ∈ operators, ∀ rest,
    (oneOf (operators.map string)).parse (operator ++ rest) = .success operator rest
  space : ∀ operator ∈ operators, Apart isSpace operator
  numeral : ∀ operator ∈ operators, Apart isNumeralPart operator

/-- No operator stands behind the spaces at the start of the rest. -/
def NoOperation (operators : List Text) (rest : Text) : Prop :=
  Refuses (oneOf (operators.map string)) (rest.dropWhile isSpace)

theorem operators_product : Operators ["*", "/"] where
  read := by
    intro operator member rest
    simp only [List.mem_cons, List.not_mem_nil, or_false] at member
    rcases member with rfl | rfl <;> rfl
  space := by decide
  numeral := by decide

theorem operators_sum : Operators ["+", "-"] where
  read := by
    intro operator member rest
    simp only [List.mem_cons, List.not_mem_nil, or_false] at member
    rcases member with rfl | rfl <;> rfl
  space := by decide
  numeral := by decide

variable {bound : Nat} {operand : Parser Expression} {language : Language Expression}
  {follow : Text → Prop} {operators : List Text} {rest text : Text} {tree : Expression}

theorem refuses_operationParser (none : NoOperation operators rest) :
    Refuses (operationParser operand operators) rest := by
  obtain ⟨reason, failed⟩ := none
  exact ⟨reason, by simp [operationParser, failed]⟩

theorem accepts_operationParser (known : Operators operators)
    (accepts : AcceptsBelow bound operand language follow)
    (apart : ∀ {text tree}, language text tree → Apart isSpace text) :
    AcceptsBelow bound (operationParser operand operators) (Operation operators language) follow := by
  rintro text operation rest inside ⟨left, member, right, behind⟩ follows
  rename_i before operator after operandText tree
  simp only [List.append_assoc, List.length_append] at inside
  have readBefore := parse_spaces_run left
    ((known.space operator member).stops_append (after ++ (operandText ++ rest)))
  have readOperator := known.read operator member (after ++ (operandText ++ rest))
  have readAfter := parse_spaces_run right ((apart behind).stops_append rest)
  have readOperand : operand.parse (operandText ++ rest) = .success tree rest :=
    accepts (by simp only [List.length_append]; omega) behind follows
  simp only [operationParser, parse_keep, parse_drop, parse_succeed, Outcome.andThen_success,
    List.append_assoc, readBefore, readOperator, readAfter, readOperand]

/-- A chain accepts its operands with operators between them, in front of neither an operation nor a longer
operand. -/
theorem accepts_chain (known : Operators operators)
    (accepts : AcceptsBelow bound operand language follow)
    (apart : ∀ {text tree}, language text tree → Apart isSpace text)
    (between : ∀ {before operator}, Run isSpace before → operator ∈ operators →
      ∀ rest, follow (before ++ (operator ++ rest))) :
    AcceptsBelow bound (chain operand operators) (Chain operators language)
      fun rest => follow rest ∧ NoOperation operators rest := by
  rintro text tree rest inside ⟨start, behind⟩ ⟨follows, none⟩
  rename_i operandText others first operations
  simp only [List.append_assoc, List.length_append] at inside
  have starts : ∀ {text operation} rest, Operation operators language text operation →
      follow (text ++ rest) := by
    rintro _ _ rest ⟨left, member, right, behind⟩
    simp only [List.append_assoc]
    exact between left member _
  have nonempty : ∀ {text operation}, Operation operators language text operation → text ≠ [] := by
    rintro _ _ ⟨left, member, right, behind⟩
    simp [(apart behind).nonempty]
  have readOperations : (many (operationParser operand operators) (succeed ())).parse (others ++ rest) =
      .success operations rest :=
    accepts_many_sequence (accepts_operationParser known accepts apart) nonempty starts
      (by simp only [List.length_append]; omega) behind ⟨follows, refuses_operationParser none⟩
  have here : follow (others ++ rest) := by
    cases behind with
    | nil => exact follows
    | cons next _ =>
        rw [List.append_assoc]
        exact starts _ next
  have readFirst : operand.parse (operandText ++ (others ++ rest)) = .success first (others ++ rest) :=
    accepts (by simp only [List.length_append]; omega) start here
  simp only [chain, parse_keep, parse_succeed, Outcome.andThen_success, List.append_assoc, readFirst,
    readOperations]
  rfl

/-- A factor begins with a digit, a parenthesis or a minus sign. -/
theorem Factor.apart (factor : Factor text tree) : Apart isSpace text := by
  cases factor with
  | real numeral =>
      obtain ⟨left, -⟩ := numeral
      exact ((left.apart (by decide)).append _).append _
  | integer numeral =>
      obtain ⟨numeral, -⟩ := numeral
      exact numeral.apart (by decide)
  | parenthesized before inner after =>
      have opening : Apart isSpace ("(" : Text) := by decide
      exact (((opening.append _).append _).append _).append _
  | negation inner =>
      have minus : Apart isSpace ("-" : Text) := by decide
      exact minus.append _

theorem Term.apart (term : Term text tree) : Apart isSpace text := by
  obtain ⟨start, -⟩ := term
  exact start.apart.append _

theorem Sum.apart (sum : Sum text tree) : Apart isSpace text := by
  obtain ⟨start, -⟩ := sum
  exact (Term.apart start).append _

/-- A term ends where neither a digit, a point nor an operation on factors follows. -/
def TermEnd (rest : Text) : Prop :=
  Stops isNumeralPart rest ∧ NoOperation ["*", "/"] rest

def SumEnd (rest : Text) : Prop :=
  TermEnd rest ∧ NoOperation ["+", "-"] rest

theorem noOperation_spaces (run : Run isSpace text) (stops : Stops isSpace rest)
    (none : NoOperation operators rest) : NoOperation operators (text ++ rest) := by
  rw [NoOperation, stops.dropWhile_eq] at none
  rwa [NoOperation, run.dropWhile_append stops]

/-- Spaces may stand behind a sum. -/
theorem sumEnd_spaces (run : Run isSpace text) (stops : Stops isSpace rest) (ends : SumEnd rest) :
    SumEnd (text ++ rest) := by
  obtain ⟨⟨numeral, product⟩, sum⟩ := ends
  exact ⟨⟨run.stops_append space_disjoint numeral, noOperation_spaces run stops product⟩,
    noOperation_spaces run stops sum⟩

theorem sumEnd_nil : SumEnd [] :=
  ⟨⟨stops_nil, _, rfl⟩, _, rfl⟩

theorem sumEnd_closing (rest : Text) : SumEnd ((")" : Text) ++ rest) :=
  ⟨⟨Stops.append (by decide) (by decide), _, rfl⟩, _, rfl⟩

/-- A factor ends before a multiplication or a division. -/
theorem factorEnd_product {before operator : Text} (left : Run isSpace before)
    (member : operator ∈ (["*", "/"] : List Text)) (rest : Text) :
    Stops isNumeralPart (before ++ (operator ++ rest)) :=
  left.stops_append space_disjoint ((operators_product.numeral operator member).stops_append rest)

/-- A term ends before an addition or a subtraction. -/
theorem termEnd_sum {before operator : Text} (left : Run isSpace before)
    (member : operator ∈ (["+", "-"] : List Text)) (rest : Text) :
    TermEnd (before ++ (operator ++ rest)) := by
  refine ⟨left.stops_append space_disjoint ((operators_sum.numeral operator member).stops_append rest),
    noOperation_spaces left ((operators_sum.space operator member).stops_append rest) ?_⟩
  simp only [List.mem_cons, List.not_mem_nil, or_false] at member
  rcases member with rfl | rfl
  · exact ⟨_, rfl⟩
  · exact ⟨_, rfl⟩

theorem accepts_expressionOf {factor : Parser Expression}
    (accepts : AcceptsBelow bound factor Factor (Stops isNumeralPart)) :
    AcceptsBelow bound (expressionOf factor) Sum SumEnd :=
  accepts_chain operators_sum (accepts_chain operators_product accepts Factor.apart factorEnd_product)
    Term.apart termEnd_sum

theorem parse_parenthesized {expression : Parser Expression} {left right : Text}
    (accepts : AcceptsBelow bound expression Sum SumEnd) (before : Run isSpace left)
    (inner : Sum text tree) (after : Run isSpace right)
    (inside : (text ++ (right ++ ((")" : Text) ++ rest))).length < bound) :
    (parenthesized expression).parse
      (("(" : Text) ++ (left ++ (text ++ (right ++ ((")" : Text) ++ rest))))) = .success tree rest := by
  have closing : Stops isSpace ((")" : Text) ++ rest) := Stops.append (by decide) (by decide)
  have readOpening := parse_string_append "(" (left ++ (text ++ (right ++ ((")" : Text) ++ rest))))
  have readLeft := parse_spaces_run before ((Sum.apart inner).stops_append (right ++ ((")" : Text) ++ rest)))
  have readInner : expression.parse (text ++ (right ++ ((")" : Text) ++ rest))) =
      .success tree (right ++ ((")" : Text) ++ rest)) :=
    accepts inside inner (sumEnd_spaces after closing (sumEnd_closing rest))
  have readRight := parse_spaces_run after closing
  have readClosing := parse_string_append ")" rest
  simp only [parenthesized, parse_keep, parse_drop, parse_succeed, parse_delayed, Outcome.andThen_success,
    readOpening, readLeft, readInner, readRight, readClosing]

theorem refuses_parenthesized {source : Text} (expression : Parser Expression)
    (noOpening : Refuses (string "(") source) : Refuses (parenthesized expression) source := by
  obtain ⟨reason, failed⟩ := noOpening
  exact ⟨reason, by simp [parenthesized, failed]⟩

/-- The parser of factors accepts every factor, wherever it does not run into a numeral. -/
theorem accepts_factorParser (bound : Nat) :
    AcceptsBelow bound factorParser Factor (Stops isNumeralPart) := by
  refine accepts_fix ?_ bound
  intro bound accepts text tree rest inside member follows
  cases member with
  | real numeral => exact parse_oneOf_real _ _ numeral follows.digit
  | integer numeral => exact parse_oneOf_integer _ _ _ numeral follows.digit (noFraction_of_stops follows)
  | @parenthesized left text right tree before inner after =>
      simp only [List.append_assoc] at inside ⊢
      have noDigit : Stops isDigit (("(" : Text) ++ (left ++ (text ++ (right ++ ((")" : Text) ++ rest))))) :=
        Stops.append (by decide) (by decide)
      rw [factorBody, parse_oneOf_stops _ _ _ _ noDigit]
      apply parse_oneOf_first
      refine parse_parenthesized (accepts_expressionOf accepts) before inner after ?_
      have opening : 0 < ("(" : Text).length := by decide
      simp only [List.length_append] at inside ⊢
      omega
  | @negation text tree inner =>
      rw [List.append_assoc] at inside ⊢
      have noDigit : Stops isDigit (("-" : Text) ++ (text ++ rest)) := Stops.append (by decide) (by decide)
      have noOpening : Refuses (string "(") (("-" : Text) ++ (text ++ rest)) := ⟨_, rfl⟩
      have minus : 0 < ("-" : Text).length := by decide
      have readInner := accepts (by simp only [List.length_append] at inside ⊢; omega) inner follows
      rw [factorBody, parse_oneOf_stops _ _ _ _ noDigit, (refuses_parenthesized _ noOpening).parse_oneOf]
      simp [negated, parse_string_append, readInner]

/-- The parser of whole inputs succeeds exactly on the texts of whole expressions, with the trees that they mean. -/
theorem wholeExpression_iff {source rest : Text} {tree : Expression} :
    wholeExpression.parse source = .success tree rest ↔ rest = [] ∧ Whole source tree := by
  constructor
  · exact whole_of_parse
  · rintro ⟨rfl, before, inner, after⟩
    rename_i left text right
    have readLeft := parse_spaces_run before ((Sum.apart inner).stops_append right)
    have readInner : expressionParser.parse (text ++ right) = .success tree right := by
      refine accepts_expressionOf (accepts_factorParser _) (Nat.lt_succ_self _) inner ?_
      simpa using sumEnd_spaces after stops_nil sumEnd_nil
    have readRight : spaces.parse right = .success () [] := by
      simpa using parse_spaces_run after stops_nil
    have readEnd : endOfFile.parse [] = .success () [] := rfl
    simp only [wholeExpression, parse_keep, parse_drop, parse_succeed, Outcome.andThen_success,
      List.append_assoc, readLeft, readInner, readRight, readEnd]

end ParserAlgebra.Expression
