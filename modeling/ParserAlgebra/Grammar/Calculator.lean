import ParserAlgebra.Number.Basic
import ParserAlgebra.Parser.Lexeme
import ParserAlgebra.Parser.Numeral
import ParserAlgebra.Parser.Recursion
import ParserAlgebra.Run

namespace ParserAlgebra

/-- An arithmetic expression with its operators as they are written. -/
inductive Expression where
  | number (value : Number)
  | binary (operator : Text) (left right : Expression)
  | negation (operand : Expression)
  deriving DecidableEq

namespace Expression

open ParserAlgebra.Parser

/-- This function finds the meaning of an operator. -/
def operation? (operator : Text) : Option (Number → Number → Except Fault Number) :=
  if operator = "+" then some Number.add
  else if operator = "-" then some Number.subtract
  else if operator = "*" then some Number.multiply
  else if operator = "/" then some Number.divide
  else none

/-- This function computes an expression. -/
def compute : Expression → Except Fault Number
  | number value => .ok value
  | binary operator left right =>
      -- The operator is looked up before the operands are computed.
      match operation? operator with
      | none => .error (.unknownOperator operator)
      | some operation => do
          let leftValue ← compute left
          let rightValue ← compute right
          operation leftValue rightValue
  | negation operand => do
      let value ← compute operand
      return value.negate

/-- The failure of a division by zero. -/
def zeroDivision : Failure := .custom "Division by zero."

/-- This function computes an expression and turns a division by zero into a failure. -/
def verdict (expression : Expression) : Verdict Number :=
  match expression.compute with
  | .ok value => .ok value
  | .error .divisionByZero => .failure zeroDivision
  | .error .realDivisionByZero => .failure zeroDivision
  | .error fault => .fault fault

/-- This function joins operands from the left. -/
def fold (first : Expression) (operations : List (Text × Expression)) : Expression :=
  operations.foldl (fun tree operation => binary operation.1 tree operation.2) first

/-- This parser reads an operator and the operand behind it, with spaces around the operator. -/
def operationParser (operand : Parser Expression) (operators : List Text) :
    Parser (Text × Expression) :=
  ((((succeed fun operator value => (operator, value)).drop spaces).keep
    (oneOf (operators.map string))).drop spaces).keep operand

/-- This parser reads operands with operators between them and joins them from the left. -/
def chain (operand : Parser Expression) (operators : List Text) : Parser Expression :=
  ((succeed fold).keep operand).keep (many (operationParser operand operators) (succeed ()))

/-- This function gives the parser of a term, with a parser for its factors. -/
def termOf (factor : Parser Expression) : Parser Expression :=
  chain factor ["*", "/"]

/-- This function gives the parser of an expression, with a parser for its factors. -/
def expressionOf (factor : Parser Expression) : Parser Expression :=
  chain (termOf factor) ["+", "-"]

/-- This parser reads an expression in parentheses. -/
def parenthesized (expression : Parser Expression) : Parser Expression :=
  (((((succeed fun inner => inner).drop (string "(")).drop spaces).keep
    (delayed expression.step)).drop spaces).drop (string ")")

/-- This parser reads a minus sign and a factor. -/
def negated (factor : Parser Expression) : Parser Expression :=
  ((succeed negation).drop (string "-")).keep factor

/-- This function gives the parser of a factor, with a parser for the factors inside it. -/
def factorBody (factor : Parser Expression) : Parser Expression :=
  oneOf [realNumber.transform fun value => number (.real value),
    integerNumber.transform fun (value : Nat) => number (.integer value),
    parenthesized (expressionOf factor), negated factor]

/-- This parser reads a number, an expression in parentheses or a negated factor. -/
def factorParser : Parser Expression :=
  fix factorBody

/-- This parser reads factors that are multiplied and divided. -/
def termParser : Parser Expression :=
  termOf factorParser

/-- This parser reads terms that are added and subtracted. -/
def expressionParser : Parser Expression :=
  expressionOf factorParser

/-- This parser reads an expression that spans the whole input, with spaces around it. -/
def wholeExpression : Parser Expression :=
  (((((succeed fun tree => tree).drop spaces).keep expressionParser).drop spaces).drop endOfFile)

/-- This parser reads an expression that spans the whole input and computes it. -/
def calculation : Parser Number :=
  wholeExpression.andThen fun tree => fromVerdict (pure tree.verdict)

/-- This function evaluates a text that holds one expression. -/
def evaluate (source : Text) : Logged (Verdict Number) := do
  Logged.tell .calculator (Text.concat ["Evaluating ", source.quoted])
  run source calculation

end Expression

end ParserAlgebra
