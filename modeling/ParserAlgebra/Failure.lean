import ParserAlgebra.Fault

namespace ParserAlgebra

/-- Messages show at most this many code points of the input. -/
def excerptLength : Nat := 20

/-- This function shortens a text for a message and marks what is cut off by three dots. -/
def Text.excerpt (text : Text) : Text :=
  if text.length ≤ excerptLength then text else text.take excerptLength ++ ("..." : Text)

theorem Text.excerpt_short {text : Text} (short : text.length ≤ excerptLength) : text.excerpt = text :=
  if_pos short

theorem Text.excerpt_long {text : Text} (long : excerptLength < text.length) :
    text.excerpt = text.take excerptLength ++ ("..." : Text) :=
  if_neg (Nat.not_le.2 long)

/-- A failure says why a parser did not accept its input. -/
inductive Failure where
  /-- Something definite was required at the unconsumed input `got`. -/
  | expected (what got : Text)
  /-- A test refused the input at `context`. -/
  | unexpected (context : Text)
  /-- The input ended where one more code point was required. -/
  | endOfInput
  /-- A grammar gave its own reason. -/
  | custom (message : Text)
  /-- A combinator was used in a way that can never succeed. -/
  | misconfigured (message : Text)
  /-- A failure that gives no reason. -/
  | unspecified
  deriving DecidableEq

namespace Failure

/-- This function describes a failure in one sentence, unless it is one without a reason. -/
def describe : Failure → Except Fault Text
  | expected what got =>
      if got.isEmpty then
        .ok (Text.concat ["Expected ", what, ", got the end of input."])
      else
        .ok (Text.concat ["Expected ", what, ", got ", got.excerpt.quoted, "."])
  | unexpected context => .ok (Text.concat ["Unexpected input ", context.excerpt.quoted, "."])
  | endOfInput => .ok "Unexpected end of input."
  | custom message => .ok message
  | misconfigured message => .ok (Text.concat ["Misconfigured parser: ", message])
  | unspecified => .error .undescribed

/-- This function gives the unconsumed input at the failure, if the failure knows it. -/
def remaining : Failure → Option Text
  | expected _ got => some got
  | unexpected context => some context
  | endOfInput => some []
  | custom _ => none
  | misconfigured _ => none
  | unspecified => none

/-- This function gives the offset of a failure whose unconsumed input is an end of the source. -/
def position (source : Text) (failure : Failure) : Option Nat :=
  match failure.remaining with
  | none => none
  | some rest => if rest.isSuffixOf source then some (source.length - rest.length) else none

/-- A failure that shows an end of the source stands at its offset. -/
theorem position_of_suffix {source rest : Text} {failure : Failure}
    (shown : failure.remaining = some rest) (suffix : rest <:+ source) :
    failure.position source = some (source.length - rest.length) := by
  simp [position, shown, suffix]

/-- This function writes a failure with its fields. -/
def represent : Failure → Text
  | expected what got =>
      Text.concat ["Expected(what=", what.quoted, ", got=", got.quoted, ")"]
  | unexpected context => Text.concat ["UnexpectedInput(context=", context.quoted, ")"]
  | endOfInput => "EOF()"
  | custom message => Text.concat ["Custom(message=", message.quoted, ")"]
  | misconfigured message => Text.concat ["BadParser(message=", message.quoted, ")"]
  | unspecified => "ParseFailure()"

end Failure

end ParserAlgebra
