import ParserAlgebra.Text.Quoted

/-
This file defines faults: errors that stop a run, as opposed to failures, from which a run may recover.
-/

namespace ParserAlgebra

/-- The kinds of plain values that a fault can name. -/
inductive Kind where
  | none
  | boolean
  | text
  | integer
  | real
  | decimal
  | list
  | tuple
  | dictionary
  | function
  | money
  | wallet
  | operation
  | negation
  deriving DecidableEq

/-- This function gives the name of a kind in messages. -/
def Kind.name : Kind → Text
  | none => "NoneType"
  | boolean => "bool"
  | text => "str"
  | integer => "int"
  | real => "float"
  | decimal => "Decimal"
  | list => "list"
  | tuple => "tuple"
  | dictionary => "dict"
  | function => "function"
  | money => "Money"
  | wallet => "Wallet"
  | operation => "BinaryOperation"
  | negation => "Negation"

/-- The combinators that take a function. -/
inductive FunctionPlace where
  | map
  | andThen
  | map2
  | delayed
  | takeIf
  | takeWhile
  deriving DecidableEq

def FunctionPlace.name : FunctionPlace → Text
  | map => "map()"
  | andThen => "then()"
  | map2 => "map2()"
  | delayed => "lazy()"
  | takeIf => "take_if()"
  | takeWhile => "take_while()"

/-- The places that must give a parser. -/
inductive ParserPlace where
  | alternatives
  | callback
  | thunk
  /-- A part of a combinator that is only looked at when it runs. -/
  | part
  deriving DecidableEq

def ParserPlace.name : ParserPlace → Text
  | alternatives => "one_of() alternatives"
  | callback => "The then() callback"
  | thunk => "The lazy() thunk"
  | part => "A part of a combinator"

/-- A fault stops the whole run, since no combinator recovers from it. -/
inductive Fault where
  | notCallable (place : FunctionPlace) (found : Kind)
  | notParser (place : ParserPlace) (found : Kind)
  /-- A failure without a description was asked for one. -/
  | undescribed
  /-- A decimal result lies above the largest exponent. -/
  | decimalOverflow
  /-- A decimal was scaled by a power outside the allowed range. -/
  | decimalInvalid
  | decimalDivisionByZero
  /-- Zero was divided by zero in decimals. -/
  | decimalDivisionUndefined
  /-- The quotient of two integers lies above the largest double. -/
  | quotientTooLarge
  /-- An integer met a double and lies above the largest double. -/
  | integerTooLarge
  | divisionByZero
  | realDivisionByZero
  | unknownOperator (symbol : Text)
  /-- A value that is no function was given an argument. -/
  | notFunction (found : Kind)
  /-- An operation has no meaning for its operand. -/
  | unsupportedOperand (symbol : Text) (operand : Kind)
  /-- An operation has no meaning for its two operands. -/
  | unsupportedOperands (symbol : Text) (left right : Kind)
  /-- A name has no parser. -/
  | unknownReference (name : Text)
  /-- A parser referred to itself without consuming input. -/
  | unboundedRecursion
  deriving DecidableEq

/-- This function gives the wording of a fault. -/
def Fault.message : Fault → Text
  | notCallable place found =>
      Text.concat [place.name, " must be callable, got ", found.name, "."]
  | notParser place found =>
      Text.concat [place.name, " must produce a Parser, got ", found.name, "."]
  | undescribed => ""
  | decimalOverflow => "[<class 'decimal.Overflow'>]"
  | decimalInvalid => "[<class 'decimal.InvalidOperation'>]"
  | decimalDivisionByZero => "[<class 'decimal.DivisionByZero'>]"
  | decimalDivisionUndefined => "[<class 'decimal.DivisionUndefined'>]"
  | quotientTooLarge => "integer division result too large for a float"
  | integerTooLarge => "int too large to convert to float"
  | divisionByZero => "division by zero"
  | realDivisionByZero => "float division by zero"
  | unknownOperator symbol => symbol.quoted
  | notFunction found => Text.concat ["'", found.name, "' object is not callable"]
  | unsupportedOperand symbol operand =>
      Text.concat ["bad operand type for unary ", symbol, ": '", operand.name, "'"]
  | unsupportedOperands symbol left right =>
      Text.concat ["unsupported operand type(s) for ", symbol, ": '", left.name, "' and '",
        right.name, "'"]
  | unknownReference name => name.quoted
  | unboundedRecursion => "maximum recursion depth exceeded"

end ParserAlgebra
