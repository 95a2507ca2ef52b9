import ParserAlgebra.Association
import ParserAlgebra.Description.Basic
import ParserAlgebra.Description.Build
import ParserAlgebra.Description.Environment
import ParserAlgebra.Description.Session
import ParserAlgebra.Failure
import ParserAlgebra.Fault
import ParserAlgebra.Grammar.Calculator
import ParserAlgebra.Grammar.Json
import ParserAlgebra.Grammar.Wallet
import ParserAlgebra.Number.Basic
import ParserAlgebra.Number.Decimal
import ParserAlgebra.Number.Double
import ParserAlgebra.Number.Literal
import ParserAlgebra.Number.Shortest
import ParserAlgebra.Outcome
import ParserAlgebra.ParseError
import ParserAlgebra.Parser.Basic
import ParserAlgebra.Parser.Character
import ParserAlgebra.Parser.Choice
import ParserAlgebra.Parser.Lexeme
import ParserAlgebra.Parser.Numeral
import ParserAlgebra.Parser.Recursion
import ParserAlgebra.Parser.Repetition
import ParserAlgebra.Proofs.Association
import ParserAlgebra.Proofs.Calculator.Evaluation
import ParserAlgebra.Proofs.Calculator.Fault
import ParserAlgebra.Proofs.Calculator.Grammar
import ParserAlgebra.Proofs.Calculator.Recognition
import ParserAlgebra.Proofs.Calculator.Refusal
import ParserAlgebra.Proofs.Description.Composition
import ParserAlgebra.Proofs.Grammar.Fault
import ParserAlgebra.Proofs.Grammar.Recursion
import ParserAlgebra.Proofs.Json.Conformance
import ParserAlgebra.Proofs.Json.Dialect
import ParserAlgebra.Proofs.Json.Exponent
import ParserAlgebra.Proofs.Json.Fault
import ParserAlgebra.Proofs.Json.Grammar
import ParserAlgebra.Proofs.Json.Number
import ParserAlgebra.Proofs.Json.Recognition
import ParserAlgebra.Proofs.Json.Refusal
import ParserAlgebra.Proofs.Json.Scaling
import ParserAlgebra.Proofs.Language
import ParserAlgebra.Proofs.Number.Decimal
import ParserAlgebra.Proofs.Number.Nearest
import ParserAlgebra.Proofs.Number.Rounding
import ParserAlgebra.Proofs.Number.Scaling
import ParserAlgebra.Proofs.Number.Shortest
import ParserAlgebra.Proofs.ParseError.Excerpt
import ParserAlgebra.Proofs.ParseError.Location
import ParserAlgebra.Proofs.Parser.Acceptance
import ParserAlgebra.Proofs.Parser.Choice
import ParserAlgebra.Proofs.Parser.Composition
import ParserAlgebra.Proofs.Parser.FailurePoint
import ParserAlgebra.Proofs.Parser.Fault
import ParserAlgebra.Proofs.Parser.LeadingNumber
import ParserAlgebra.Proofs.Parser.Mirror
import ParserAlgebra.Proofs.Parser.Numeral
import ParserAlgebra.Proofs.Parser.Pipeline
import ParserAlgebra.Proofs.Parser.Quoted
import ParserAlgebra.Proofs.Parser.Reading
import ParserAlgebra.Proofs.Parser.Reentry
import ParserAlgebra.Proofs.Parser.Scanner
import ParserAlgebra.Proofs.Parser.SinglePass
import ParserAlgebra.Proofs.Parser.Termination
import ParserAlgebra.Proofs.Parser.Token
import ParserAlgebra.Proofs.Text.Numeral
import ParserAlgebra.Proofs.Text.Run
import ParserAlgebra.Proofs.Wallet.Grammar
import ParserAlgebra.Proofs.Wallet.Recognition
import ParserAlgebra.Proofs.Wallet.Refusal
import ParserAlgebra.Proofs.Wallet.RoundTrip
import ParserAlgebra.Proofs.Wallet.Separation
import ParserAlgebra.Proofs.Wallet.Totals
import ParserAlgebra.Proofs.Wallet.Writing
import ParserAlgebra.Run
import ParserAlgebra.Text.Basic
import ParserAlgebra.Text.CharacterClass
import ParserAlgebra.Text.Numeral
import ParserAlgebra.Text.Printable
import ParserAlgebra.Text.Quoted
import ParserAlgebra.Value.Arithmetic
import ParserAlgebra.Value.Basic
import ParserAlgebra.Value.Equality
import ParserAlgebra.Value.Operation
import ParserAlgebra.Value.Representation
import ParserAlgebra.Value.Result
