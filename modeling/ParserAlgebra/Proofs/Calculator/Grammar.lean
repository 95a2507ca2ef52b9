import ParserAlgebra.Grammar.Calculator
import ParserAlgebra.Proofs.Parser.Numeral
import ParserAlgebra.Proofs.Parser.Token

namespace ParserAlgebra.Expression

open ParserAlgebra.Language ParserAlgebra.Parser Text

/-- An operation is an operator with spaces on both sides and an operand behind it. -/
inductive Operation (operators : List Text) (operand : Text → Expression → Prop) :
    Text → Text × Expression → Prop where
  | operation {before operator after text : Text} {tree : Expression} (left : Run (" " : Text).contains before)
      (known : operator ∈ operators) (right : Run (" " : Text).contains after) (behind : operand text tree) :
      Operation operators operand (before ++ operator ++ after ++ text) (operator, tree)

/-- Operands with operators between them are joined from the left. -/
inductive Chain (operators : List Text) (operand : Text → Expression → Prop) :
    Text → Expression → Prop where
  | chain {text others : Text} {first : Expression} {operations : List (Text × Expression)}
      (start : operand text first)
      (behind : Sequence (Operation operators operand) others operations) :
      Chain operators operand (text ++ others)
        (operations.foldl (fun left operation => binary operation.1 left operation.2) first)

/-- A factor is a number, an expression in parentheses, or a minus sign before a factor. -/
inductive Factor : Text → Expression → Prop where
  | real {text : Text} {value : Double} (numeral : RealText text value) :
      Factor text (number (.real value))
  | integer {text : Text} {value : Nat} (numeral : IntegerText text value) :
      Factor text (number (.integer value))
  | parenthesized {left text right : Text} {tree : Expression} (before : Run (" " : Text).contains left)
      (inner : Chain ["+", "-"] (Chain ["*", "/"] Factor) text tree)
      (after : Run (" " : Text).contains right) :
      Factor (("(" : Text) ++ left ++ text ++ right ++ (")" : Text)) tree
  | negation {text : Text} {tree : Expression} (inner : Factor text tree) :
      Factor (("-" : Text) ++ text) (negation tree)

/-- Factors are multiplied and divided. -/
abbrev Term : Text → Expression → Prop :=
  Chain ["*", "/"] Factor

/-- Terms are added and subtracted. -/
abbrev Sum : Text → Expression → Prop :=
  Chain ["+", "-"] Term

/-- A whole input is an expression with spaces around it. -/
abbrev Whole : Text → Expression → Prop :=
  Padded (" " : Text).contains Sum

theorem reads_operationParser {operand : Parser Expression} {language : Language Expression}
    (reads : Reads operand language) (operators : List Text) :
    Reads (operationParser operand operators) (Operation operators language) := by
  intro source value rest parsed
  simp only [operationParser, parse_keep, parse_drop, parse_succeed, Outcome.andThen_success,
    Outcome.andThen_assoc, Outcome.andThen_eq_success] at parsed
  obtain ⟨_, _, readBefore, operator, _, readOperator, _, _, readAfter, tree, _, readOperand, done⟩ :=
    parsed
  cases done
  obtain ⟨before, rfl, left⟩ := reads_spaces readBefore
  obtain ⟨_, rfl, rfl, known⟩ := Reads.literals operators readOperator
  obtain ⟨after, rfl, right⟩ := reads_spaces readAfter
  obtain ⟨text, rfl, behind⟩ := reads readOperand
  exact ⟨_, by simp, .operation left known right behind⟩

theorem reads_chain {operand : Parser Expression} {language : Language Expression}
    (reads : Reads operand language) (operators : List Text) :
    Reads (chain operand operators) (Chain operators language) := by
  intro source tree rest parsed
  simp only [chain, parse_keep, parse_succeed, Outcome.andThen_success, Outcome.andThen_assoc,
    Outcome.andThen_eq_success] at parsed
  obtain ⟨first, _, readFirst, operations, _, readOperations, done⟩ := parsed
  cases done
  obtain ⟨text, rfl, start⟩ := reads readFirst
  obtain ⟨others, rfl, repeated⟩ :=
    (reads_operationParser reads operators).many (Reads.succeed ()) readOperations
  have behind : Sequence (Operation operators language) others operations :=
    repeated.sequence fun between => between.1
  exact ⟨text ++ others, by simp, .chain start behind⟩

theorem reads_expressionOf {factor : Parser Expression} (reads : Reads factor Factor) :
    Reads (expressionOf factor) Sum :=
  reads_chain (reads_chain reads _) _

theorem reads_parenthesized {expression : Parser Expression} {language : Language Expression}
    (reads : Reads expression language) : Reads (parenthesized expression) fun text tree =>
      ∃ left inner right, text = ("(" : Text) ++ left ++ inner ++ right ++ (")" : Text) ∧ Run isSpace left ∧
        language inner tree ∧ Run isSpace right := by
  intro source tree rest parsed
  simp only [parenthesized, parse_keep, parse_drop, parse_succeed, parse_delayed, Outcome.andThen_success,
    Outcome.andThen_assoc, Outcome.andThen_eq_success] at parsed
  obtain ⟨_, _, readOpening, _, _, readLeft, inner, _, readInner, _, _, readRight, _, _, readClosing,
    done⟩ := parsed
  cases done
  obtain ⟨_, rfl, rfl, -⟩ := Reads.string _ readOpening
  obtain ⟨left, rfl, before⟩ := reads_spaces readLeft
  obtain ⟨text, rfl, member⟩ := reads readInner
  obtain ⟨right, rfl, after⟩ := reads_spaces readRight
  obtain ⟨_, rfl, rfl, -⟩ := Reads.string _ readClosing
  exact ⟨("(" : Text) ++ left ++ text ++ right ++ (")" : Text), by simp, left, text, right, rfl, before, member,
    after⟩

theorem reads_negated {factor : Parser Expression} {language : Language Expression}
    (reads : Reads factor language) : Reads (negated factor) fun text tree =>
      ∃ inner operand, text = ("-" : Text) ++ inner ∧ language inner operand ∧ tree = negation operand := by
  intro source tree rest parsed
  simp only [negated, parse_keep, parse_drop, parse_succeed, Outcome.andThen_success,
    Outcome.andThen_assoc, Outcome.andThen_eq_success] at parsed
  obtain ⟨_, _, readMinus, inner, _, readInner, done⟩ := parsed
  cases done
  obtain ⟨_, rfl, rfl, -⟩ := Reads.string _ readMinus
  obtain ⟨text, rfl, member⟩ := reads readInner
  exact ⟨("-" : Text) ++ text, by simp, text, inner, rfl, member, rfl⟩

/-- The parser of factors reads factors only, at any depth of parentheses. -/
theorem reads_factorParser : Reads factorParser Factor := by
  refine Reads.fix fun {factor} reads => Reads.oneOf fun alternative member => ?_
  simp only [List.mem_cons, List.not_mem_nil, or_false] at member
  rcases member with rfl | rfl | rfl | rfl
  · refine (reads_realNumber.transform _).mono ?_
    intro text tree reading
    obtain ⟨value, numeral, rfl⟩ := reading
    exact .real numeral
  · refine (reads_integerNumber.transform _).mono ?_
    intro text tree reading
    obtain ⟨value, numeral, rfl⟩ := reading
    exact .integer numeral
  · refine (reads_parenthesized (reads_expressionOf reads)).mono ?_
    intro text tree reading
    obtain ⟨left, inner, right, rfl, before, sum, after⟩ := reading
    exact .parenthesized before sum after
  · refine (reads_negated reads).mono ?_
    intro text tree reading
    obtain ⟨inner, operand, rfl, factor, rfl⟩ := reading
    exact .negation factor

theorem reads_expressionParser : Reads expressionParser Sum :=
  reads_expressionOf reads_factorParser

/-- The parser of whole inputs leaves nothing, and reads whole expressions only. -/
theorem whole_of_parse {source rest : Text} {tree : Expression}
    (parsed : wholeExpression.parse source = .success tree rest) : rest = [] ∧ Whole source tree := by
  simp only [wholeExpression, parse_keep, parse_drop, parse_succeed, Outcome.andThen_success,
    Outcome.andThen_assoc, Outcome.andThen_eq_success] at parsed
  obtain ⟨_, _, readLeft, inner, _, readInner, _, _, readRight, _, final, readEnd, done⟩ := parsed
  cases done
  obtain ⟨left, rfl, before⟩ := reads_spaces readLeft
  obtain ⟨text, rfl, member⟩ := reads_expressionParser readInner
  obtain ⟨right, rfl, after⟩ := reads_spaces readRight
  obtain ⟨rfl, rfl⟩ := parse_endOfFile_eq_success.1 readEnd
  have whole : Whole (left ++ text ++ right) tree := .padded before member after
  refine ⟨rfl, ?_⟩
  simpa using whole

end ParserAlgebra.Expression
