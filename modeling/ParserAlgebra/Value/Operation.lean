import ParserAlgebra.Value.Arithmetic
import ParserAlgebra.Value.Representation

namespace ParserAlgebra

namespace Value

def toText? : Value → Option Text
  | text value => some value
  | _ => Option.none

/-- This function lists the parts of a value: the elements of a sequence, the code points of a text,
or the keys of a dictionary. -/
def elements? : Value → Option (List Value)
  | list elements => some elements
  | tuple elements => some elements
  | text points => some (points.map fun point => text [point])
  | dictionary entries => some (entries.map fun entry => entry.1)
  | _ => Option.none

/-- This function gives the key and the value that an entry of a dictionary is made of. -/
def toPair? (value : Value) : Option (Value × Value) :=
  match value.elements? with
  | some [first, second] => some (first, second)
  | _ => Option.none

/-- This function gives the texts that a value is made of. -/
def texts? (value : Value) : Option (List Text) :=
  value.elements?.bind fun elements => elements.mapM toText?

/-- This function collects the entries of a dictionary, where a repeated key keeps its first place and takes its last
value. -/
def toDictionary? : Value → Option Value
  | dictionary entries => some (dictionary entries)
  | value => do
      let pairs ← (← value.elements?).mapM toPair?
      return dictionary (Association.ofPairs pairs)

/-- This function gives the number of parts of a value. -/
def size? (value : Value) : Option Nat :=
  value.elements?.map List.length

/-- This function writes a value for a reader, to whom a text stands for itself. -/
def written : Value → Text
  | text value => value
  | decimal value => value.text
  | money value => value.text
  | value => value.represent

end Value

namespace Operation

open Value

/-- This function raises the fault of an operation that has no meaning for its argument. -/
def orUnsupported (name : Text) (argument : Value) : Option Value → Except Fault Value
  | some result => .ok result
  | Option.none => .error (.unsupportedOperand name argument.kind)

/-- This function computes an operation whose arguments are complete. -/
def compute : Operation → List Value → Except Fault Value
  | constant, result :: _ => .ok result
  | call, called :: _ => .error (.notFunction called.kind)
  | identity, [value] => .ok value
  | negate, [value] => value.negate
  | double, [value] => value.multiply (integer 2)
  | successor, [value] => value.add (integer 1)
  | asText, [value] => .ok (text value.written)
  | length, [value] =>
      orUnsupported "len" value (value.size?.map fun size => integer size)
  | join, [value] =>
      orUnsupported "join" value (value.texts?.map fun texts => text (Text.concat texts))
  | dictionary, [value] => orUnsupported "dict" value value.toDictionary?
  | singleton, [value] => .ok (list [value])
  | isNone, [Value.none] => .ok (boolean true)
  | isNone, [_] => .ok (boolean false)
  | add, [left, right] => left.add right
  | subtract, [left, right] => left.subtract right
  | first, [value, _] => .ok value
  | second, [_, value] => .ok value
  | cons, [value, list elements] => .ok (list (value :: elements))
  | cons, [value, other] => .error (.unsupportedOperands "+" (list [value]).kind other.kind)
  | tuple, arguments => .ok (.tuple arguments)
  | _, _ => .error (.notFunction .function)

end Operation

namespace Value

/-- This function gives one argument to a function, which computes when no argument is missing. -/
def apply : Value → Value → Except Fault Value
  | function operation waiting given, argument =>
      let arguments := given ++ [argument]
      if waiting ≤ 1 then operation.compute arguments
      else .ok (function operation (waiting - 1) arguments)
  | other, _ => .error (.notFunction other.kind)

end Value

end ParserAlgebra
