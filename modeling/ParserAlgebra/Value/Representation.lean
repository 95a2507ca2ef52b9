import ParserAlgebra.Value.Basic

namespace ParserAlgebra

namespace Value

/-- This function writes a decimal as a call with its text. -/
def representDecimal (value : Decimal) : Text :=
  Text.concat ["Decimal('", value.text, "')"]

def representMoney (money : Money) : Text :=
  Text.concat
    ["Money(amount=", representDecimal money.amount, ", currency=", money.currency.quoted, ")"]

/-- This function writes items with commas between them. -/
def commaSeparated (items : List Text) : Text :=
  List.intercalate (Text.ofString ", ") items

mutual

/-- This function writes a value. -/
def represent : Value → Text
  | none => "None"
  | boolean value => if value then "True" else "False"
  | text value => value.quoted
  | integer value => Text.ofInt value
  | real value => value.text
  | decimal value => representDecimal value
  | list elements => Text.concat ["[", commaSeparated (representList elements), "]"]
  | tuple elements =>
      Text.concat ["(", commaSeparated (representList elements),
        if elements.length = 1 then ",)" else ")"]
  | dictionary entries => Text.concat ["\x7b", commaSeparated (representEntries entries), "\x7d"]
  | money value => representMoney value
  | wallet value =>
      Text.concat ["Wallet(entries=[", commaSeparated (value.entries.map representMoney), "])"]
  | binary operator left right =>
      Text.concat ["BinaryOperation(op=", operator.quoted, ", left=", represent left, ", right=",
        represent right, ")"]
  | negation operand => Text.concat ["Negation(operand=", represent operand, ")"]
  | function _ _ _ => "<function>"

def representList : List Value → List Text
  | [] => []
  | element :: elements => represent element :: representList elements

def representEntries : List (Value × Value) → List Text
  | [] => []
  | (key, value) :: entries =>
      Text.concat [represent key, ": ", represent value] :: representEntries entries

end

end Value

end ParserAlgebra
