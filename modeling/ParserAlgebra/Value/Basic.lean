import ParserAlgebra.Grammar.Calculator
import ParserAlgebra.Grammar.Json
import ParserAlgebra.Grammar.Wallet

namespace ParserAlgebra

/-- The named operations on values. -/
inductive Operation where
  /-- Gives its first argument, whatever comes after it. -/
  | constant
  /-- Calls its first argument, a value that is no function. -/
  | call
  | identity
  | negate
  | double
  | successor
  | asText
  | length
  | join
  | dictionary
  | singleton
  | isNone
  | add
  | subtract
  | first
  | second
  | cons
  | tuple
  deriving DecidableEq

/-- A value of any kind, functions with the arguments they were given included. -/
inductive Value where
  | none
  | boolean (value : Bool)
  | text (value : Text)
  | integer (value : Int)
  | real (value : Double)
  | decimal (value : Decimal)
  | list (elements : List Value)
  | tuple (elements : List Value)
  | dictionary (entries : List (Value × Value))
  | money (value : Money)
  | wallet (value : Wallet)
  | binary (operator : Text) (left right : Value)
  | negation (operand : Value)
  | function (operation : Operation) (waiting : Nat) (given : List Value)

namespace Value

/-- This function gives the kind of a value. -/
def kind : Value → Kind
  | none => .none
  | boolean _ => .boolean
  | text _ => .text
  | integer _ => .integer
  | real _ => .real
  | decimal _ => .decimal
  | list _ => .list
  | tuple _ => .tuple
  | dictionary _ => .dictionary
  | money _ => .money
  | wallet _ => .wallet
  | binary _ _ _ => .operation
  | negation _ => .negation
  | function _ _ _ => .function

def ofNumber : Number → Value
  | .integer number => integer number
  | .real number => real number

def ofExpression : Expression → Value
  | .number number => ofNumber number
  | .binary operator left right => binary operator (ofExpression left) (ofExpression right)
  | .negation operand => negation (ofExpression operand)

mutual

def ofJson : Json → Value
  | .null => none
  | .boolean value => boolean value
  | .number number => ofNumber number
  | .text value => text value
  | .array elements => list (ofJsonList elements)
  | .object members => dictionary (ofJsonMembers members)

def ofJsonList : List Json → List Value
  | [] => []
  | element :: elements => ofJson element :: ofJsonList elements

def ofJsonMembers : List (Text × Json) → List (Value × Value)
  | [] => []
  | (key, value) :: members => (text key, ofJson value) :: ofJsonMembers members

end

/-- This function gives the number that a value stands for in arithmetic, zero or one for a truth value. -/
def toNumber? : Value → Option Number
  | integer number => some (.integer number)
  | real number => some (.real number)
  | boolean value => some (.integer (if value then 1 else 0))
  | _ => Option.none

end Value

end ParserAlgebra
