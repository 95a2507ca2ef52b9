import ParserAlgebra.Description.Environment

namespace ParserAlgebra

/-- A session keeps the text that is left and the parsers that were named. -/
structure Session where
  text : Text := []
  environment : Environment := ⟨[]⟩

/-- One step of a session. -/
inductive SessionStep where
  | feed (text : Text)
  | define (name : Text) (description : Description)
  | parse (description : Description)

/-- The answer to a step. -/
inductive SessionAnswer where
  | fed
  | defined (parser : Parser Value)
  /-- A parser was built and ran on the source. -/
  | parsed (source : Text) (outcome : Outcome Value)
  /-- The description of the step could not be built. -/
  | refused (fault : Fault)

namespace Session

/-- This function parses the text of a session and consumes what a success reads. -/
def parse (session : Session) (bound : BoundParser) : Session × SessionAnswer :=
  let outcome := (session.environment.close bound session.text).parse session.text
  match outcome with
  | .success _ rest => (⟨rest, session.environment⟩, .parsed session.text outcome)
  | .failure _ => (session, .parsed session.text outcome)
  | .fault _ => (session, .parsed session.text outcome)

/-- This function takes one step, and changes nothing if the step cannot be built. -/
def advance (session : Session) : SessionStep → Session × SessionAnswer
  | .feed text => (⟨text, session.environment⟩, .fed)
  | .define name description =>
      match session.environment.build description with
      | .error fault => (session, .refused fault)
      | .ok bound =>
          (⟨session.text, ⟨Association.insert name bound session.environment.entries⟩⟩,
            .defined (session.environment.close bound []))
  | .parse description =>
      match session.environment.build description with
      | .error fault => (session, .refused fault)
      | .ok bound => session.parse bound

/-- This function takes steps in order and gives the length of the text after each step with its answer. -/
def play (session : Session) : List SessionStep → List (Nat × SessionAnswer)
  | [] => []
  | step :: steps =>
      let (next, answer) := session.advance step
      (next.text.length, answer) :: play next steps

end Session

end ParserAlgebra
