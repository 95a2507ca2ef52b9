import ParserAlgebra.Value.Equality

namespace ParserAlgebra

namespace Value

/-- This function gives the integer that a value stands for. -/
def toInt? : Value → Option Int
  | integer value => some value
  | boolean value => some (if value then 1 else 0)
  | _ => Option.none

/-- This function gives the decimal that a value stands for, and none for a double. -/
def toDecimal? : Value → Option Decimal
  | decimal value => some value
  | value => value.toInt?.map Decimal.ofInt

/-- This function applies an operation of numbers, or one of decimals if there is a decimal, or else the last
argument. -/
def combine (onNumbers : Number → Number → Except Fault Number)
    (onDecimals : Decimal → Decimal → Except Fault Decimal)
    (otherwise : Value → Value → Except Fault Value) (left right : Value) : Except Fault Value :=
  match left.toNumber?, right.toNumber? with
  | some first, some second => (onNumbers first second).map ofNumber
  | _, _ =>
      match left.toDecimal?, right.toDecimal? with
      | some first, some second => (onDecimals first second).map decimal
      | _, _ => otherwise left right

def unsupported (symbol : Text) (left right : Value) : Except Fault Value :=
  .error (.unsupportedOperands symbol left.kind right.kind)

/-- This function writes a sequence after another one of the same kind. -/
def append : Value → Value → Except Fault Value
  | text first, text second => .ok (text (first ++ second))
  | list first, list second => .ok (list (first ++ second))
  | tuple first, tuple second => .ok (tuple (first ++ second))
  | left, right => unsupported "+" left right

/-- This function writes a sequence a number of times, and not at all for a negative number. -/
def repeated (times : Int) : Value → Option Value
  | text points => some (text (List.replicate times.toNat points).flatten)
  | list elements => some (list (List.replicate times.toNat elements).flatten)
  | tuple elements => some (tuple (List.replicate times.toNat elements).flatten)
  | _ => Option.none

/-- This function repeats the operand that is a sequence as often as the other one says. -/
def repeatEither (left right : Value) : Except Fault Value :=
  match right.toInt?.bind fun times => left.repeated times,
    left.toInt?.bind fun times => right.repeated times with
  | some result, _ => .ok result
  | Option.none, some result => .ok result
  | Option.none, Option.none => unsupported "*" left right

def add : Value → Value → Except Fault Value :=
  combine Number.add Decimal.add append

def subtract : Value → Value → Except Fault Value :=
  combine Number.subtract Decimal.subtract (unsupported "-")

def multiply : Value → Value → Except Fault Value :=
  combine Number.multiply Decimal.multiply repeatEither

def divide : Value → Value → Except Fault Value :=
  combine Number.divide Decimal.divide (unsupported "/")

/-- This function changes the sign of a number. -/
def negate (value : Value) : Except Fault Value :=
  match value.toNumber? with
  | some number => .ok (ofNumber number.negate)
  | Option.none =>
      match value with
      | decimal number => number.negate.map decimal
      | other => .error (.unsupportedOperand "-" other.kind)

/-- This function finds the meaning of an operator. -/
def operation? (operator : Text) : Option (Value → Value → Except Fault Value) :=
  if operator = "+" then some add
  else if operator = "-" then some subtract
  else if operator = "*" then some multiply
  else if operator = "/" then some divide
  else Option.none

/-- This function computes a tree of operations, and any other value is its own result. -/
def compute : Value → Except Fault Value
  | binary operator left right =>
      -- The operator is looked up before the operands are computed.
      match operation? operator with
      | Option.none => .error (.unknownOperator operator)
      | some operation => do
          let leftValue ← compute left
          let rightValue ← compute right
          operation leftValue rightValue
  | negation operand => do
      let value ← compute operand
      value.negate
  | value => .ok value

theorem combine_ofNumber (onNumbers : Number → Number → Except Fault Number)
    (onDecimals : Decimal → Decimal → Except Fault Decimal)
    (otherwise : Value → Value → Except Fault Value) (left right : Number) :
    combine onNumbers onDecimals otherwise (ofNumber left) (ofNumber right) =
      (onNumbers left right).map ofNumber := by
  cases left <;> cases right <;> rfl

theorem negate_ofNumber (number : Number) :
    (ofNumber number).negate = .ok (ofNumber number.negate) := by
  cases number <;> rfl

/-- The two meanings of an operator agree on numbers. -/
theorem operation?_ofNumber (operator : Text) :
    match operation? operator, Expression.operation? operator with
    | some operation, some numeric => ∀ left right : Number,
        operation (ofNumber left) (ofNumber right) = (numeric left right).map ofNumber
    | Option.none, Option.none => True
    | _, _ => False := by
  unfold operation? Expression.operation?
  by_cases plus : operator = "+"
  · simp only [plus, ↓reduceIte]
    exact combine_ofNumber Number.add Decimal.add append
  · by_cases minus : operator = "-"
    · simp only [minus, ↓reduceIte]
      exact combine_ofNumber Number.subtract Decimal.subtract (unsupported "-")
    · by_cases times : operator = "*"
      · simp only [times, ↓reduceIte]
        exact combine_ofNumber Number.multiply Decimal.multiply repeatEither
      · by_cases slash : operator = "/"
        · simp only [slash, ↓reduceIte]
          exact combine_ofNumber Number.divide Decimal.divide (unsupported "/")
        · simp only [plus, minus, times, slash, ↓reduceIte]

/-- A tree that comes from an expression computes to the value of the expression. -/
theorem compute_ofExpression (expression : Expression) :
    (ofExpression expression).compute = expression.compute.map ofNumber := by
  induction expression with
  | number value => cases value <;> rfl
  | binary operator left right leftHypothesis rightHypothesis =>
      have agree := operation?_ofNumber operator
      simp only [ofExpression, compute, Expression.compute]
      cases onValues : operation? operator with
      | none =>
          cases onNumbers : Expression.operation? operator with
          | none => rfl
          | some numeric =>
              rw [onValues, onNumbers] at agree
              exact agree.elim
      | some operation =>
          cases onNumbers : Expression.operation? operator with
          | none =>
              rw [onValues, onNumbers] at agree
              exact agree.elim
          | some numeric =>
              rw [onValues, onNumbers] at agree
              simp only [leftHypothesis, rightHypothesis]
              cases left.compute with
              | error fault => rfl
              | ok leftValue =>
                  cases right.compute with
                  | error fault => rfl
                  | ok rightValue => exact agree leftValue rightValue
  | negation operand inductionHypothesis =>
      simp only [ofExpression, compute, Expression.compute, inductionHypothesis]
      cases operand.compute with
      | error fault => rfl
      | ok value => exact negate_ofNumber value

end Value

end ParserAlgebra
