import ParserAlgebra.Parser.Basic

namespace ParserAlgebra.Parser

variable {α : Type}

/-- This function runs a parser and, if it fails, an alternative on the same input. -/
def stepElse (parser : Parser α) (alternative : Text → Logged (Outcome α)) (source : Text) :
    Logged (Outcome α) := do
  match ← parser.step source with
  | .success value rest => return .success value rest
  | .failure _ => alternative source
  | .fault reason => return .fault reason

theorem value_stepElse (parser : Parser α) (alternative : Text → Logged (Outcome α))
    (source : Text) :
    (parser.stepElse alternative source).value =
      (parser.parse source).orElse fun _ => (alternative source).value := by
  rw [stepElse, Logged.value_bind, parse]
  cases (parser.step source).value <;> rfl

/-- The failure of a choice without alternatives. -/
def noAlternative : Failure := .misconfigured "one_of() needs at least one parser."

/-- This function tries alternatives in order, each on the same input. -/
def chooseStep : List (Parser α) → Text → Logged (Outcome α)
  | [], _ => pure (.failure noAlternative)
  | [last], source => last.step source
  | first :: second :: others, source => first.stepElse (chooseStep (second :: others)) source

/-- This combinator gives the first success among its alternatives, or the failure of the last
one. -/
def oneOf (alternatives : List (Parser α)) : Parser α where
  step := chooseStep alternatives
  name := some (Text.concat ["one_of(", Text.ofNat alternatives.length, ")"])

@[simp] theorem parse_oneOf_nil (source : Text) :
    (oneOf [] : Parser α).parse source = .failure noAlternative := rfl

@[simp] theorem parse_oneOf_singleton (last : Parser α) (source : Text) :
    (oneOf [last]).parse source = last.parse source := rfl

@[simp] theorem parse_oneOf_cons_cons (first second : Parser α) (others : List (Parser α))
    (source : Text) :
    (oneOf (first :: second :: others)).parse source =
      (first.parse source).orElse fun _ => (oneOf (second :: others)).parse source :=
  value_stepElse first _ source

/-- This combinator never fails, and succeeds without a value where the parser fails. -/
def optional (parser : Parser α) : Parser (Option α) where
  step := (parser.transform some).stepElse fun source => pure (.success none source)
  name := some "optional"

@[simp] theorem parse_optional (parser : Parser α) (source : Text) :
    parser.optional.parse source =
      ((parser.parse source).andThen fun value rest => .success (some value) rest).orElse
        fun _ => .success none source := by
  refine (value_stepElse (parser.transform some) _ source).trans ?_
  rw [parse_transform]
  rfl

/-- An optional parser that reads a value reads what the parser does. -/
theorem parse_optional_eq_some {parser : Parser α} {source rest : Text} {value : α} :
    parser.optional.parse source = .success (some value) rest ↔ parser.parse source = .success value rest := by
  rw [parse_optional]
  cases parser.parse source <;> simp

end ParserAlgebra.Parser
