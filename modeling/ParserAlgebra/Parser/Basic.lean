import ParserAlgebra.Outcome

namespace ParserAlgebra

/-- A parser reads the start of a text, and its name appears only in messages. -/
structure Parser (α : Type) where
  step : Text → Logged (Outcome α)
  name : Option Text := none

namespace Parser

variable {α β γ σ : Type}

/-- This function gives the outcome of a parser and forgets the log. -/
def parse (parser : Parser α) (source : Text) : Outcome α :=
  (parser.step source).value

/-- This function writes a parser by its name. -/
def represent (parser : Parser α) : Text :=
  match parser.name with
  | none => "<Parser>"
  | some name => Text.concat ["<Parser ", name, ">"]

/-- This function gives a parser another name. -/
def rename (name : Option Text) (parser : Parser α) : Parser α :=
  { parser with name := name }

@[simp] theorem parse_rename (name : Option Text) (parser : Parser α) (source : Text) :
    (parser.rename name).parse source = parser.parse source := rfl

/-- This function makes a parser that writes no log. -/
def ofOutcome (name : Text) (answer : Text → Outcome α) : Parser α where
  step source := pure (answer source)
  name := some name

@[simp] theorem parse_ofOutcome (name : Text) (answer : Text → Outcome α) (source : Text) :
    (ofOutcome name answer).parse source = answer source := rfl

/-- This function runs a parser and goes on from its success. -/
def stepThen (parser : Parser α) (next : α → Text → Logged (Outcome β)) (source : Text) :
    Logged (Outcome β) := do
  match ← parser.step source with
  | .success value rest => next value rest
  | .failure reason => return .failure reason
  | .fault reason => return .fault reason

theorem value_stepThen (parser : Parser α) (next : α → Text → Logged (Outcome β))
    (source : Text) :
    (parser.stepThen next source).value =
      (parser.parse source).andThen fun value rest => (next value rest).value := by
  rw [stepThen, Logged.value_bind, parse]
  cases (parser.step source).value <;> rfl

/-- This function applies a function to the value and keeps the name of the parser. -/
def transform (f : α → β) (parser : Parser α) : Parser β where
  step := parser.stepThen fun value rest => pure (.success (f value) rest)
  name := parser.name

@[simp] theorem parse_transform (f : α → β) (parser : Parser α) (source : Text) :
    (parser.transform f).parse source =
      (parser.parse source).andThen fun value rest => .success (f value) rest :=
  value_stepThen parser _ source

/-- This function raises the faults that a parser gives as values. -/
def raising (parser : Parser (Except Fault α)) : Parser α where
  step := parser.stepThen fun result rest =>
    match result with
    | .ok value => pure (.success value rest)
    | .error fault => pure (.fault fault)
  name := parser.name

@[simp] theorem parse_raising (parser : Parser (Except Fault α)) (source : Text) :
    parser.raising.parse source =
      (parser.parse source).andThen fun result rest =>
        match result with
        | .ok value => .success value rest
        | .error fault => .fault fault := by
  refine (value_stepThen parser _ source).trans ?_
  congr 1
  funext result rest
  cases result <;> rfl

/-- This combinator applies a function to the value. -/
def map (f : α → β) (parser : Parser α) : Parser β :=
  (parser.transform f).rename (some "map")

@[simp] theorem parse_map (f : α → β) (parser : Parser α) (source : Text) :
    (parser.map f).parse source =
      (parser.parse source).andThen fun value rest => .success (f value) rest :=
  parse_transform f parser source

/-- This combinator runs a parser, and then the parser that its value selects on the rest. -/
def andThen (parser : Parser α) (next : α → Parser β) : Parser β where
  step := parser.stepThen fun value rest => (next value).step rest
  name := some "then"

@[simp] theorem parse_andThen (parser : Parser α) (next : α → Parser β) (source : Text) :
    (parser.andThen next).parse source =
      (parser.parse source).andThen fun value rest => (next value).parse rest :=
  value_stepThen parser _ source

/-- This combinator runs two parsers in sequence and combines their values. -/
def map2 (f : α → β → γ) (first : Parser α) (second : Parser β) : Parser γ where
  step := first.stepThen fun left rest =>
    second.stepThen (fun right final => pure (.success (f left right) final)) rest
  name := some "map2"

@[simp] theorem parse_map2 (f : α → β → γ) (first : Parser α) (second : Parser β)
    (source : Text) :
    (map2 f first second).parse source =
      (first.parse source).andThen fun left rest =>
        (second.parse rest).andThen fun right final => .success (f left right) final := by
  refine (value_stepThen first _ source).trans ?_
  congr 1
  funext left rest
  exact value_stepThen second _ rest

/-- This combinator applies the function read first to the value read second. -/
def keep (function : Parser (α → β)) (argument : Parser α) : Parser β :=
  map2 (fun f value => f value) function argument

@[simp] theorem parse_keep (function : Parser (α → β)) (argument : Parser α) (source : Text) :
    (function.keep argument).parse source =
      (function.parse source).andThen fun f rest =>
        (argument.parse rest).andThen fun value final => .success (f value) final :=
  parse_map2 _ function argument source

/-- This combinator runs two parsers in sequence and keeps the value of the first. -/
def drop (keeper : Parser α) (ignored : Parser σ) : Parser α :=
  map2 (fun value _ => value) keeper ignored

@[simp] theorem parse_drop (keeper : Parser α) (ignored : Parser σ) (source : Text) :
    (keeper.drop ignored).parse source =
      (keeper.parse source).andThen fun value rest =>
        (ignored.parse rest).andThen fun _ final => .success value final :=
  parse_map2 _ keeper ignored source

/-- This parser succeeds with a value and consumes nothing. -/
def succeed (value : α) : Parser α :=
  ofOutcome "succeed" fun source => .success value source

@[simp] theorem parse_succeed (value : α) (source : Text) :
    (succeed value).parse source = .success value source := rfl

/-- The failure of a value that is missing. -/
def missingValue : Failure := .custom "Missing value."

/-- This parser consumes nothing, and fails if there is no value. -/
def fromOption (value : Option α) (missing : Failure := missingValue) : Parser α :=
  ofOutcome "from_option" fun source =>
    match value with
    | some value => .success value source
    | none => .failure missing

/-- This parser consumes nothing, and succeeds or fails as the result says. -/
def fromResult (result : Except Failure α) : Parser α :=
  ofOutcome "from_result" fun source =>
    match result with
    | .ok value => .success value source
    | .error reason => .failure reason

/-- This parser consumes nothing, and answers as another run did, with the log of that run. -/
def fromVerdict (verdict : Logged (Verdict α)) : Parser α where
  step source := do
    match ← verdict with
    | .ok value => return .success value source
    | .failure reason => return .failure reason
    | .fault reason => return .fault reason
  name := some "from_result"

@[simp] theorem parse_fromVerdict (verdict : Logged (Verdict α)) (source : Text) :
    (fromVerdict verdict).parse source =
      match verdict.value with
      | .ok value => .success value source
      | .failure reason => .failure reason
      | .fault reason => .fault reason := by
  simp only [fromVerdict, parse, Logged.value_bind]
  cases verdict.value <;> rfl

/-- This parser always raises a fault. -/
def abort (fault : Fault) : Parser α where
  step _ := pure (.fault fault)

@[simp] theorem parse_abort (fault : Fault) (source : Text) :
    (abort fault : Parser α).parse source = .fault fault := rfl

end Parser

end ParserAlgebra
