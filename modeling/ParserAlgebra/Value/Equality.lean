import ParserAlgebra.Value.Basic

namespace ParserAlgebra

/-- The exact value of a number of any kind. -/
inductive ExactNumber where
  | quotient (numerator : Int) (denominator : Nat)
  | infinite (negative : Bool)
  | undefined

namespace ExactNumber

/-- Numbers are equal if their values are, and what is not a number equals nothing. -/
def equal : ExactNumber → ExactNumber → Bool
  | quotient first denominator, quotient second other =>
      first * (other : Int) == second * (denominator : Int)
  | infinite first, infinite second => first == second
  | _, _ => false

/-- This function orders numbers by their values, and what is not a number is below nothing. -/
def less : ExactNumber → ExactNumber → Bool
  | quotient first denominator, quotient second other =>
      first * (other : Int) < second * (denominator : Int)
  | infinite negative, quotient _ _ => negative
  | quotient _ _, infinite negative => !negative
  | infinite first, infinite second => first && !second
  | _, _ => false

def ofDouble : Double → ExactNumber
  | .finite negative index => quotient (Double.signedUnits negative index.val) Double.unitsInOne
  | .infinite negative => infinite negative
  | .notANumber => undefined

def ofDecimal : Decimal → ExactNumber
  | .finite negative coefficient exponent =>
      let magnitude : Int := (coefficient * tenTo exponent.toNat : Nat)
      quotient (if negative then -magnitude else magnitude) (tenTo (-exponent).toNat)
  | .infinite negative => infinite negative

end ExactNumber

namespace Value

/-- This function gives the exact value of a number of any kind. -/
def toExact? : Value → Option ExactNumber
  | boolean value => some (.quotient (if value then 1 else 0) 1)
  | integer value => some (.quotient value 1)
  | real value => some (.ofDouble value)
  | decimal value => some (.ofDecimal value)
  | _ => Option.none

/-- This function compares two numbers of any kinds, and is false for what is no number. -/
def isBelow (left right : Value) : Bool :=
  match left.toExact?, right.toExact? with
  | some first, some second => first.less second
  | _, _ => false

def equalMoney (left right : Money) : Bool :=
  (ExactNumber.ofDecimal left.amount).equal (.ofDecimal right.amount) &&
    left.currency == right.currency

mutual

/-- This function compares two values, numbers by their exact values and dictionaries without regard to their
order. -/
def equal : Value → Value → Bool
  | none, none => true
  | text first, text second => first == second
  | list first, list second => equalList first second
  | tuple first, tuple second => equalList first second
  | dictionary first, dictionary second =>
      first.length == second.length && includes first second
  | money first, money second => equalMoney first second
  | wallet first, wallet second =>
      first.entries.length == second.entries.length &&
        (first.entries.zip second.entries).all fun pair => equalMoney pair.1 pair.2
  | binary operator left right, binary otherOperator otherLeft otherRight =>
      operator == otherOperator && equal left otherLeft && equal right otherRight
  | negation operand, negation other => equal operand other
  | left, right =>
      match left.toExact?, right.toExact? with
      | some first, some second => first.equal second
      | _, _ => false

def equalList : List Value → List Value → Bool
  | [], [] => true
  | first :: others, second :: rest => equal first second && equalList others rest
  | _, _ => false

/-- This test says whether every entry of the first dictionary is in the second one. -/
def includes : List (Value × Value) → List (Value × Value) → Bool
  | [], _ => true
  | (key, value) :: entries, other =>
      (other.any fun entry => equal key entry.1 && equal value entry.2) && includes entries other

end

instance : BEq Value := ⟨equal⟩

end Value

end ParserAlgebra
