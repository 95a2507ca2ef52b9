import ParserAlgebra.Description.Basic

namespace ParserAlgebra

/-- The meaning of names while a parser runs. -/
abbrev Lookup := Text → Parser Value

/-- A parser that depends on what names mean while it runs. -/
abbrev BoundParser := Lookup → Parser Value

/-- What a description builds: a parser, or a value that is no parser. -/
inductive Built where
  | parser (parser : BoundParser)
  | plain (value : Value)

namespace Built

/-- This function gives the parser that a place requires. -/
def require (place : ParserPlace) : Built → Except Fault BoundParser
  | parser bound => .ok bound
  | plain value => .error (.notParser place value.kind)

/-- This function gives the parser to run, and stops the run at a value that is no parser. -/
def toParser (place : ParserPlace) (lookup : Lookup) (built : Built) : Parser Value :=
  match built.require place with
  | .ok bound => bound lookup
  | .error fault => Parser.abort fault

end Built

namespace KnownParser

open ParserAlgebra.Parser

/-- This function gives a known parser with its values embedded. -/
def parser : KnownParser → Parser Value
  | anyPoint => Parser.anyPoint.transform fun point => .text [point]
  | endOfFile => Parser.endOfFile.transform fun _ => .none
  | spaces => Parser.spaces.transform fun _ => .none
  | whitespace => Parser.whitespace.transform fun _ => .none
  | integerNumber => Parser.integerNumber.transform fun (number : Nat) => .integer number
  | realNumber => Parser.realNumber.transform .real
  | identifier => Parser.identifier.transform .text
  | unicodeEscape => Parser.unicodeEscape.transform .text
  | amount => Money.amountParser.transform .decimal
  | currencyCode => Money.codeParser.transform .text
  | currencySymbol => Money.symbolParser.transform .text
  | money => Money.moneyParser.transform .money
  | wallet => Wallet.walletParser.transform .wallet
  | factor => Expression.factorParser.transform .ofExpression
  | term => Expression.termParser.transform .ofExpression
  | expression => Expression.expressionParser.transform .ofExpression
  | calculation => Expression.calculation.transform .ofNumber
  | jsonNumber => Json.numberParser.transform .ofNumber
  | jsonArray =>
      (Json.arrayParser Json.delayedValue).transform fun elements => .ofJson (.array elements)
  | jsonObject =>
      (Json.objectParser Json.delayedValue).transform fun members => .ofJson (.object members)
  | jsonValue => Json.valueParser.transform .ofJson
  | jsonDocument => Json.document.transform .ofJson

end KnownParser

namespace FunctionDescription

/-- This function gives the value that a description of a function stands for. -/
def value (arity : Nat) : FunctionDescription → Value
  | operation named => .function named arity []
  | constant result => .function .constant arity [result]
  -- A plain value gathers its arguments before it is called.
  | plain other => if arity ≤ 1 then other else .function .call arity [other]

/-- This function gives the function that a place requires. -/
def require (place : FunctionPlace) (arity : Nat) (f : FunctionDescription) :
    Except Fault Value :=
  match f with
  | plain other => .error (.notCallable place other.kind)
  | operation _ => .ok (f.value arity)
  | constant _ => .ok (f.value arity)

end FunctionDescription

namespace TestDescription

/-- This function gives the test that a place requires. -/
def require (place : FunctionPlace) : TestDescription → Except Fault (CodePoint → Bool)
  | inClass characterClass => .ok characterClass.test
  | always => .ok fun _ => true
  | never => .ok fun _ => false
  | within points => .ok fun point => points.contains point
  | outside points => .ok fun point => !points.contains point
  | plain value => .error (.notCallable place value.kind)

end TestDescription

namespace Parser

/-- This combinator applies a function value to the value read. -/
def mapValue (f : Value) (parser : Parser Value) : Parser Value :=
  (parser.map fun value => f.apply value).raising

/-- This combinator applies a function value to the two values read. -/
def map2Values (f : Value) (first second : Parser Value) : Parser Value :=
  (map2 (fun left right => do
    let partially ← f.apply left
    partially.apply right) first second).raising

/-- This combinator applies the function value read first to the value read second. -/
def keepValue (function argument : Parser Value) : Parser Value :=
  (map2 (fun f value => f.apply value) function argument).raising

/-- This combinator changes the sign of a value behind a minus sign. -/
def signedValue (parser : Parser Value) : Parser Value :=
  (signed (fun result => result.bind Value.negate) (parser.transform Except.ok)).raising

/-- This combinator reads the value `none` where the parser fails. -/
def optionalValue (parser : Parser Value) : Parser Value :=
  parser.optional.transform fun value? => value?.getD .none

/-- This combinator runs a parser a number of times in sequence. -/
def replicate : Nat → Parser Value → Parser (List Value)
  | 0, _ => succeed []
  | count + 1, parser => map2 (fun value values => value :: values) parser (replicate count parser)

/-- This parser fails if the value is `none`. -/
def fromOptionValue (value : Value) (missing : Failure) : Parser Value :=
  match value with
  | .none => fromOption none missing
  | other => fromOption (some other) missing

end Parser

/-- What a callback does with the value that was read. -/
abbrev Selection := Lookup → Value → Parser Value

namespace Selection

open ParserAlgebra.Parser

/-- This parser stops a run where a value has no meaning for a callback. -/
def unsupported (name : Text) (value : Value) : Parser Value :=
  Parser.abort (.unsupportedOperand name value.kind)

def literal : Selection := fun _ value =>
  match value.toText? with
  | some points => (string points).transform .text
  | none => unsupported "string" value

def repeatText (text : Text) : Selection := fun _ value =>
  match value.toInt? with
  | some times => (string (List.replicate times.toNat text).flatten).transform .text
  | none => unsupported "*" value

def lessThan (limit : Int) (message : Text) : Selection := fun _ value =>
  if value.isBelow (.integer limit) then fromResult (.ok value)
  else fromResult (.error (.custom message))

def count (built : Built) : Selection := fun lookup value =>
  match value.toInt? with
  | some times => (replicate times.toNat (built.toParser .callback lookup)).transform .list
  | none => unsupported "range" value

def oneOfPoints : Selection := fun _ value =>
  match value.texts? with
  | some texts => oneOf (texts.map fun points => (string points).transform .text)
  | none => unsupported "string" value

end Selection

mutual

/-- This function builds a description from left to right, and every place checks that it got a function or a
parser. -/
def Description.build (resolve : Text → Except Fault BoundParser) :
    Description → Except Fault Built
  | .known parser => .ok (.parser fun _ => parser.parser)
  | .string literal => .ok (.parser fun _ => (Parser.string literal).transform .text)
  | .symbol literal => .ok (.parser fun _ => (Parser.symbol literal).transform .text)
  | .takeIf test => do
      let accepts ← test.require .takeIf
      return .parser fun _ => (Parser.takeIf accepts).transform fun point => .text [point]
  | .takeWhile test => do
      let accepts ← test.require .takeWhile
      return .parser fun _ => (Parser.takeWhile accepts).transform .text
  | .takeIfAndWhile test => do
      let accepts ← test.require .takeIf
      return .parser fun _ => (Parser.takeIfAndWhile accepts).transform .text
  | .map parser f => do
      let built ← parser.build resolve
      let function ← f.require .map 1
      return .parser fun lookup => (built.toParser .part lookup).mapValue function
  | .andThen parser callback => do
      let built ← parser.build resolve
      let selection ← callback.build resolve
      return .parser fun lookup => (built.toParser .part lookup).andThen (selection lookup)
  | .map2 first second f => do
      let left ← first.build resolve
      let right ← second.build resolve
      let function ← f.require .map2 2
      return .parser fun lookup =>
        Parser.map2Values function (left.toParser .part lookup)
          (right.toParser .part lookup)
  | .delayedReference name =>
      .ok (.parser fun lookup => Parser.delayed fun source => (lookup name).step source)
  | .delayed parser =>
      .ok (.parser fun lookup => Parser.delayed fun source =>
        match parser.build fun name => .ok fun _ => lookup name with
        | .ok built => (built.toParser .thunk lookup).step source
        | .error fault => pure (.fault fault))
  | .delayedPlain value => .error (.notCallable .delayed value.kind)
  | .oneOf alternatives => do
      let built ← Description.buildAll resolve alternatives
      let parsers ← built.mapM (Built.require .alternatives)
      return .parser fun lookup => Parser.oneOf (parsers.map fun bound => bound lookup)
  | .optional parser => do
      let built ← parser.build resolve
      return .parser fun lookup => (built.toParser .part lookup).optionalValue
  | .fromOption value missing =>
      .ok (.parser fun _ => Parser.fromOptionValue value (missing.getD Parser.missingValue))
  | .fromResult result => .ok (.parser fun _ => Parser.fromResult result)
  | .succeed value => .ok (.parser fun _ => Parser.succeed value)
  | .succeedFunction arity f => .ok (.parser fun _ => Parser.succeed (f.value arity))
  | .keep function argument => do
      let left ← function.build resolve
      let right ← argument.build resolve
      return .parser fun lookup =>
        Parser.keepValue (left.toParser .part lookup) (right.toParser .part lookup)
  | .drop keeper ignored => do
      let left ← keeper.build resolve
      let right ← ignored.build resolve
      return .parser fun lookup =>
        (left.toParser .part lookup).drop (right.toParser .part lookup)
  | .many element separator => do
      let left ← element.build resolve
      let right ← separator.build resolve
      return .parser fun lookup =>
        (Parser.many (left.toParser .part lookup)
          (right.toParser .part lookup)).transform .list
  | .token parser => do
      let built ← parser.build resolve
      return .parser fun lookup => Parser.token (built.toParser .part lookup)
  | .signed parser => do
      let built ← parser.build resolve
      return .parser fun lookup => (built.toParser .part lookup).signedValue
  | .escapeSequence escape escapes =>
      .ok (.parser fun _ =>
        (Parser.escapeSequence (Association.ofPairs (escapes.getD standardEscapes))
          (escape.getD standardEscape)).transform .text)
  | .quotedString quote escape escapes =>
      .ok (.parser fun _ =>
        (Parser.quotedString (quote.getD standardQuote) (escape.getD standardEscape)
          (Association.ofPairs (escapes.getD standardEscapes))).transform .text)
  | .rename parser name => do
      let built ← parser.build resolve
      return .parser fun lookup => (built.toParser .part lookup).rename name
  | .reference name => do
      let bound ← resolve name
      return .parser bound
  | .plain value => .ok (.plain value)

def Description.buildAll (resolve : Text → Except Fault BoundParser) :
    List Description → Except Fault (List Built)
  | [] => .ok []
  | description :: descriptions => do
      let built ← description.build resolve
      let others ← Description.buildAll resolve descriptions
      return built :: others

/-- This function builds a callback and the parsers inside it. -/
def Callback.build (resolve : Text → Except Fault BoundParser) : Callback → Except Fault Selection
  | .parser description => do
      let built ← description.build resolve
      return fun lookup _ => built.toParser .callback lookup
  | .succeed => .ok fun _ value => Parser.succeed value
  | .fromOption => .ok fun _ value => Parser.fromOptionValue value Parser.missingValue
  | .string => .ok Selection.literal
  | .repeatText text => .ok (Selection.repeatText text)
  | .lessThan limit message => .ok (Selection.lessThan limit message)
  | .count description => do
      let built ← description.build resolve
      return Selection.count built
  | .oneOfPoints => .ok Selection.oneOfPoints
  | .returning value => .ok fun _ _ => Parser.abort (.notParser .callback value.kind)
  | .plain value => .error (.notCallable .andThen value.kind)

end

end ParserAlgebra
