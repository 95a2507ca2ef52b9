import ParserAlgebra.Parser.Basic

namespace ParserAlgebra.Parser

variable {α : Type}

/-- A parser that is looked up when it runs. -/
def delayed (step : Text → Logged (Outcome α)) : Parser α where
  step := step
  name := some "lazy"

@[simp] theorem parse_delayed (parser : Parser α) (source : Text) :
    (delayed parser.step).parse source = parser.parse source := rfl

/-- This function runs the body of a recursive parser, which may call the whole parser on strictly shorter inputs. -/
def fixStep (body : Parser α → Parser α) (source : Text) : Logged (Outcome α) :=
  (body (delayed fun rest =>
    if rest.length < source.length then fixStep body rest
    -- Any other call would never end.
    else pure (.fault .unboundedRecursion))).step source
termination_by source.length

/-- This combinator ties a recursive parser to itself. -/
def fix (body : Parser α → Parser α) : Parser α where
  step := fixStep body
  name := (body (delayed fun _ => pure (.fault .unboundedRecursion))).name

/-- This parser calls another one, on inputs below a length only. -/
def below (bound : Nat) (parser : Parser α) : Parser α :=
  delayed fun rest =>
    if rest.length < bound then parser.step rest else pure (.fault .unboundedRecursion)

theorem parse_below (bound : Nat) (parser : Parser α) (rest : Text) :
    (parser.below bound).parse rest =
      if rest.length < bound then parser.parse rest else .fault .unboundedRecursion := by
  simp only [below, delayed, parse]
  split <;> rfl

/-- A recursive parser runs its body, with itself on shorter inputs. -/
theorem parse_fix (body : Parser α → Parser α) (source : Text) :
    (fix body).parse source = (body ((fix body).below source.length)).parse source := by
  simp only [parse, fix, below]
  rw [fixStep]

end ParserAlgebra.Parser
