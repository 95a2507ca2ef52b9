import ParserAlgebra.Value.Operation

/-
This file defines descriptions of parsers as data, which may put a plain value where a function or a parser is required.
-/

namespace ParserAlgebra

/-- The parsers that exist without being described. -/
inductive KnownParser where
  | anyPoint
  | endOfFile
  | spaces
  | whitespace
  | integerNumber
  | realNumber
  | identifier
  | unicodeEscape
  | amount
  | currencyCode
  | currencySymbol
  | money
  | wallet
  | factor
  | term
  | expression
  | calculation
  | jsonNumber
  | jsonArray
  | jsonObject
  | jsonValue
  | jsonDocument
  deriving DecidableEq

/-- The description of a function. -/
inductive FunctionDescription where
  | operation (operation : Operation)
  /-- The function that always gives the value. -/
  | constant (value : Value)
  /-- A value that is no function. -/
  | plain (value : Value)

/-- The description of a test on code points. -/
inductive TestDescription where
  | inClass (characterClass : CharacterClass)
  | always
  | never
  | within (points : Text)
  | outside (points : Text)
  /-- A value that is no test. -/
  | plain (value : Value)

mutual

/-- The description of a parser. -/
inductive Description where
  | known (parser : KnownParser)
  | string (literal : Text)
  | symbol (literal : Text)
  | takeIf (test : TestDescription)
  | takeWhile (test : TestDescription)
  | takeIfAndWhile (test : TestDescription)
  | map (parser : Description) (f : FunctionDescription)
  | andThen (parser : Description) (callback : Callback)
  | map2 (first second : Description) (f : FunctionDescription)
  /-- Looks the name up each time the parser runs. -/
  | delayedReference (name : Text)
  /-- Builds the description each time the parser runs. -/
  | delayed (parser : Description)
  | delayedPlain (value : Value)
  | oneOf (alternatives : List Description)
  | optional (parser : Description)
  | fromOption (value : Value) (missing : Option Failure)
  | fromResult (result : Except Failure Value)
  | succeed (value : Value)
  /-- Succeeds with a function of so many arguments. -/
  | succeedFunction (arity : Nat) (f : FunctionDescription)
  | keep (function argument : Description)
  | drop (keeper ignored : Description)
  | many (element separator : Description)
  | token (parser : Description)
  | signed (parser : Description)
  | escapeSequence (escape : Option Text) (escapes : Option EscapeTable)
  | quotedString (quote escape : Option Text) (escapes : Option EscapeTable)
  | rename (parser : Description) (name : Option Text)
  /-- The parser that has the name when the description is built. -/
  | reference (name : Text)
  /-- A value that is no parser. -/
  | plain (value : Value)

/-- The description of a function that selects the next parser by the value read before. -/
inductive Callback where
  | parser (parser : Description)
  | succeed
  | fromOption
  | string
  /-- The literal that repeats a text as often as the value says. -/
  | repeatText (text : Text)
  /-- Succeeds with a number below a limit and fails with a message otherwise. -/
  | lessThan (limit : Int) (message : Text)
  /-- Runs a parser as often as the value says. -/
  | count (parser : Description)
  /-- A choice of the code points of the value. -/
  | oneOfPoints
  /-- Gives a value that is no parser. -/
  | returning (value : Value)
  /-- A value that is no function. -/
  | plain (value : Value)

end

end ParserAlgebra
