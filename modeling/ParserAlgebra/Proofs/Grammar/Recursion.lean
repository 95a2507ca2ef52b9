import ParserAlgebra.Proofs.Calculator.Fault
import ParserAlgebra.Proofs.Json.Fault
import ParserAlgebra.Proofs.Parser.Reentry

namespace ParserAlgebra

open ParserAlgebra.Parser ParserAlgebra.Language

variable {permitted : Text → Prop} {source : Text}

namespace Json

variable {copy element : Parser Json}

theorem mirrors_bracketed {α β : Type} {content copied : Parser α} {f : α → β} {opening closing : Text}
    (nonempty : opening ≠ []) (below : MirrorsBelow permitted copied content source) :
    Mirrors permitted
      (((((succeed f).drop (string opening)).keep copied).drop whitespace).drop (string closing))
      (((((succeed f).drop (string opening)).keep content).drop whitespace).drop (string closing)) source := by
  have quiet : Quiet ((succeed f).drop (string opening)) := (Quiet.succeed f).map2 _ (.string opening)
  have consumes : Consumes ((succeed f).drop (string opening)) := .after _ (Reads.succeed f) (.string nonempty)
  exact ((below.behind _ quiet consumes).followed _ .whitespace).followed _ (.string closing)

theorem mirrors_memberParser (ends : MirrorsEnds permitted copy element source) :
    MirrorsEnds permitted (memberParser copy) (memberParser element) source := by
  have quiet : Quiet memberHead :=
    ((((Quiet.succeed _).map2 _ .whitespace).map2 _ .standardString).map2 _ .whitespace).map2 _ (.string ":")
  have reads : Reads memberHead fun _ _ => True := by
    intro source build rest parsed
    obtain ⟨name, key, rfl, -, -⟩ := memberHead_eq_success parsed
    exact ⟨name ++ (":" : Text), by simp, trivial⟩
  exact ends.token.behind _ quiet reads

theorem mirrors_objectParser (reads : Reads element Value)
    (below : MirrorsBelow permitted copy element source) :
    Mirrors permitted (objectParser copy) (objectParser element) source := by
  refine mirrors_bracketed (by decide) fun rest proper => ?_
  have members := mirrors_memberParser (below.ends proper)
  exact (members.many (reads_memberParser reads) (Reads.string ",") (Quiet.string ",").ends).here

theorem mirrors_arrayParser (reads : Reads element Value)
    (below : MirrorsBelow permitted copy element source) :
    Mirrors permitted (arrayParser copy) (arrayParser element) source := by
  refine mirrors_bracketed (by decide) fun rest proper => ?_
  have elements := (below.ends proper).token
  exact (elements.many (reads_token reads) (Reads.string ",") (Quiet.string ",").ends).here

theorem quiet_numberParser : Quiet numberParser := by
  have mantissa : Quiet mantissaPart := by
    refine .oneOf fun alternative member => ?_
    simp only [List.mem_cons, List.not_mem_nil, or_false] at member
    rcases member with rfl | rfl
    · exact Quiet.realNumber.transform _
    · exact Quiet.integerNumber.transform _
  have exponent : Quiet exponentPart :=
    (((Quiet.succeed _).map2 _ (.literals ["e", "E"])).map2 _ (Quiet.literals ["+", "-"]).optional).map2 _
      .integerNumber
  exact ((((Quiet.succeed makeNumber).map2 _ (Quiet.string "-").optional).map2 _ mantissa).map2 _
    exponent.optional).raising

theorem quiet_keyword (word : Text) (value : Json) : Quiet (keyword word value) :=
  ((Quiet.string word).transform _).rename _

/-- Only objects and arrays call the parser of values, and they do so behind the opening bracket. -/
theorem descends_valueBody : Descends valueBody valueBody := by
  intro permitted copy source _ below
  have object := mirrors_objectParser reads_valueParser below
  have array := mirrors_arrayParser reads_valueParser below
  have text : Quiet (standardString.transform Json.text) := Quiet.standardString.transform _
  have number : Quiet (numberParser.transform Json.number) := quiet_numberParser.transform _
  exact .oneOf (.cons (object.transform _) (.cons (array.transform _) (.cons text.mirrors (.cons number.mirrors
    (.cons (quiet_keyword _ _).mirrors (.cons (quiet_keyword _ _).mirrors
      (.cons (quiet_keyword _ _).mirrors .nil)))))))

/-- This parser reads values and logs where it starts on each value inside another one. -/
def watchedValue : Parser Json :=
  fix fun element => valueBody (watched element)

theorem callsBelow_watchedValue : CallsBelow watchedValue valueParser :=
  descends_valueBody.callsBelow fun _ _ _ allowed below => descends_valueBody allowed (below.watched allowed)

/-- The values inside a value start on shorter and shorter ends, and the last element of an array is read twice. -/
example : (watchedValue.step "[1,[2]]").log.map LogEntry.message =
    (["1,[2]]", "[2]]", "2]]", "2]]", "[2]]", "2]]", "2]]"] : List Text) := by
  decide +kernel

/-- This function gives the parser of a document, with a parser for its value. -/
def documentOf (value : Parser Json) : Parser Json :=
  (token value).drop endOfFile

theorem nests_valueParser : NestsWithinLength (unroll valueBody) valueParser := by
  refine fun source => ⟨descends_valueBody.parse_unroll (Nat.le_refl _), fun raised => ?_⟩
  rcases (raising_of_valueParser raised).decimal with other | other <;> cases other

theorem nests_document : NestsWithinLength (fun depth => documentOf (unroll valueBody depth)) document := by
  intro source
  constructor
  · have inner : Mirrors _ (token (unroll valueBody source.length)) (token valueParser) source :=
      (descends_valueBody.mirrors_unroll source).token.here
    exact (inner.followed _ (.ofOutcome _ _)).parse_eq
  · intro raised
    have decoded := (value_run_eq_fault composed_document).2 raised
    rcases (decode_eq_fault_iff.1 decoded).decimal with other | other <;> cases other

/-- Each turn of a list takes at least the comma. -/
theorem consumes_listed {α : Type} {item : Parser α} {language : Language α} (reads : Reads item language) :
    Consumes (item.drop (string ",")) :=
  .after _ reads (.string (by decide))

end Json

namespace Expression

variable {copy operand : Parser Expression} {language : Language Expression}

theorem mirrors_operationParser (operators : List Text) (ends : MirrorsEnds permitted copy operand source) :
    MirrorsEnds permitted (operationParser copy operators) (operationParser operand operators) source := by
  have quiet := (((Quiet.succeed fun (operator : Text) (value : Expression) => (operator, value)).map2
    (fun value _ => value) .spaces).map2 (fun f value => f value) (.literals operators)).map2
    (fun value _ => value) .spaces
  have reads := ((((Reads.succeed fun (operator : Text) (value : Expression) => (operator, value)).drop
    reads_spaces).map2 (fun f value => f value) (Reads.literals operators)).drop reads_spaces)
  exact ends.behind _ quiet reads

theorem mirrors_chain (reads : Reads operand language) (operators : List Text)
    (ends : MirrorsEnds permitted copy operand source) :
    MirrorsEnds permitted (chain copy operators) (chain operand operators) source := by
  have first := ends.behind (fun f value => f value) (Quiet.succeed fold) (Reads.succeed fold)
  have readsFirst := (Reads.succeed fold).map2 (fun f value => f value) reads
  have operations := (mirrors_operationParser operators ends).many (reads_operationParser reads operators)
    (Reads.succeed ()) (Quiet.succeed ()).ends
  exact first.map2 _ readsFirst operations

theorem mirrors_expressionOf (reads : Reads operand Factor) (ends : MirrorsEnds permitted copy operand source) :
    MirrorsEnds permitted (expressionOf copy) (expressionOf operand) source :=
  mirrors_chain (reads_chain reads _) _ (mirrors_chain reads _ ends)

/-- This function gives the parser of a factor, with a parser for the expressions in parentheses and one for
the factors behind a minus sign. -/
def factorWith (expression factor : Parser Expression) : Parser Expression :=
  oneOf [realNumber.transform fun value => number (.real value),
    integerNumber.transform fun (value : Nat) => number (.integer value),
    parenthesized expression, negated factor]

theorem mirrors_factorWith {expression factor expressionCopy factorCopy : Parser Expression}
    (expressions : MirrorsBelow permitted expressionCopy expression source)
    (factors : MirrorsBelow permitted factorCopy factor source) :
    Mirrors permitted (factorWith expressionCopy factorCopy) (factorWith expression factor) source := by
  have quietOpening : Quiet (((succeed fun (inner : Expression) => inner).drop (string "(")).drop spaces) :=
    ((Quiet.succeed _).map2 _ (.string "(")).map2 _ .spaces
  have opening : Consumes (((succeed fun (inner : Expression) => inner).drop (string "(")).drop spaces) :=
    .before _ (.after _ (Reads.succeed _) (.string (by decide))) reads_spaces
  have inParentheses : Mirrors permitted (parenthesized expressionCopy) (parenthesized expression) source :=
    ((expressions.behind _ quietOpening opening).followed _ .spaces).followed _ (.string ")")
  have quietMinus : Quiet ((succeed negation).drop (string "-")) := (Quiet.succeed _).map2 _ (.string "-")
  have minus : Consumes ((succeed negation).drop (string "-")) :=
    .after _ (Reads.succeed _) (.string (by decide))
  have negative : Mirrors permitted (negated factorCopy) (negated factor) source :=
    factors.behind _ quietMinus minus
  have real : Quiet (realNumber.transform fun value => number (.real value)) := Quiet.realNumber.transform _
  have integer : Quiet (integerNumber.transform fun (value : Nat) => number (.integer value)) :=
    Quiet.integerNumber.transform _
  exact .oneOf (.cons real.mirrors (.cons integer.mirrors (.cons inParentheses (.cons negative .nil))))

/-- An expression calls its factors on the same input, so it is left with a proper end if the factors are. -/
theorem mirrorsBelow_expressionOf (below : MirrorsBelow permitted copy factorParser source) :
    MirrorsBelow permitted (expressionOf copy) expressionParser source :=
  fun _ proper => (mirrors_expressionOf reads_factorParser (below.ends proper)).here

theorem descends_factorBody : Descends factorBody factorBody :=
  fun _ _ _ _ below => mirrors_factorWith (mirrorsBelow_expressionOf below) below

/-- This parser reads factors and logs where it starts on expressions in parentheses and on factors behind a minus
sign. -/
def watchedFactor : Parser Expression :=
  fix fun factor => factorWith (watched (expressionOf factor)) (watched factor)

theorem callsBelow_watchedFactor : CallsBelow watchedFactor factorParser := by
  refine descends_factorBody.callsBelow fun permitted copy source allowed below => ?_
  have expressions := (mirrorsBelow_expressionOf below).watched allowed
  exact mirrors_factorWith expressions (below.watched allowed)

/-- The factors that an expression starts with are no calls of their own. -/
example : (watchedFactor.step "(-1*(2))").log.map LogEntry.message =
    (["-1*(2))", "1*(2))", "2))"] : List Text) := by
  decide +kernel

theorem steady_chain (reads : Reads operand language) (steady : Steady operand) (operators : List Text) :
    Steady (chain operand operators) := by
  intro source fault raised
  obtain ⟨stand, -, raised⟩ := chain_eq_fault reads raised
  exact steady raised

theorem nests_factorParser : NestsWithinLength (unroll factorBody) factorParser :=
  fun _ => ⟨descends_factorBody.parse_unroll (Nat.le_refl _), fun raised => steady_factorParser raised⟩

theorem nests_termParser : NestsWithinLength (fun depth => termOf (unroll factorBody depth)) termParser := by
  intro source
  have mirrors := mirrors_chain reads_factorParser ["*", "/"] (descends_factorBody.mirrors_unroll source)
  have steady := steady_chain reads_factorParser steady_factorParser ["*", "/"]
  exact ⟨mirrors.here.parse_eq, fun raised => steady raised⟩

theorem nests_expressionParser :
    NestsWithinLength (fun depth => expressionOf (unroll factorBody depth)) expressionParser := by
  intro source
  have mirrors := mirrors_expressionOf reads_factorParser (descends_factorBody.mirrors_unroll source)
  have steady := steady_chain (reads_chain reads_factorParser _)
    (steady_chain reads_factorParser steady_factorParser ["*", "/"]) ["+", "-"]
  exact ⟨mirrors.here.parse_eq, fun raised => steady raised⟩

/-- This function gives the parser of a whole input and its value, with a parser for the expression. -/
def calculationOf (expression : Parser Expression) : Parser Number :=
  (((((succeed fun tree => tree).drop spaces).keep expression).drop spaces).drop endOfFile).andThen fun tree =>
    fromVerdict (pure tree.verdict)

theorem nests_calculation :
    NestsWithinLength (fun depth => calculationOf (expressionOf (unroll factorBody depth))) calculation := by
  intro source
  constructor
  · have inner := mirrors_expressionOf reads_factorParser (descends_factorBody.mirrors_unroll source)
    have quiet : Quiet ((succeed fun (tree : Expression) => tree).drop spaces) :=
      (Quiet.succeed _).map2 _ .spaces
    have reads := (Reads.succeed fun (tree : Expression) => tree).drop reads_spaces
    have expression := (inner.behind (fun f value => f value) quiet reads).here
    have ending : Quiet endOfFile := .ofOutcome _ _
    have whole := (expression.followed (fun tree _ => tree) .spaces).followed (fun tree _ => tree) ending
    exact (whole.andThen fun tree rest _ => .of_parse_eq rfl).parse_eq
  · intro raised
    have described : Described zeroDivision := ⟨_, rfl⟩
    have evaluated := (value_run_eq_fault (composed_calculation described)).2 raised
    rcases (evaluate_eq_fault_iff.1 evaluated).1 with other | other <;> cases other

/-- Each turn of a chain takes at least the operator. -/
theorem consumes_operation (reads : Reads operand language) {operators : List Text}
    (nonempty : ∀ operator ∈ operators, operator ≠ []) :
    Consumes ((operationParser operand operators).drop (succeed ())) := by
  have operation : Consumes (operationParser operand operators) := by
    refine (reads_operationParser reads operators).mono fun {text value} member => ?_
    obtain ⟨left, known, right, behind⟩ := member
    have written := nonempty _ known
    simp [written]
  exact operation.before _ (Reads.succeed ())

end Expression

/-- The calls of the recursive grammars start on proper ends of their inputs, and each turn of a loop takes at least
one code point. -/
theorem recursion_ends :
    CallsBelow Json.watchedValue Json.valueParser ∧
    CallsBelow Expression.watchedFactor Expression.factorParser ∧
    Consumes ((token Json.valueParser).drop (string ",")) ∧
    Consumes ((Json.memberParser Json.valueParser).drop (string ",")) ∧
    Consumes (stringPiece.drop (succeed ())) ∧
    Consumes ((Expression.operationParser Expression.factorParser ["*", "/"]).drop (succeed ())) ∧
    Consumes ((Expression.operationParser Expression.termParser ["+", "-"]).drop (succeed ())) ∧
    NestsWithinLength (unroll Json.valueBody) Json.valueParser ∧
    NestsWithinLength (fun depth => Json.documentOf (unroll Json.valueBody depth)) Json.document ∧
    NestsWithinLength (unroll Expression.factorBody) Expression.factorParser ∧
    NestsWithinLength (fun depth => Expression.termOf (unroll Expression.factorBody depth))
      Expression.termParser ∧
    NestsWithinLength (fun depth => Expression.expressionOf (unroll Expression.factorBody depth))
      Expression.expressionParser ∧
    NestsWithinLength
      (fun depth => Expression.calculationOf (Expression.expressionOf (unroll Expression.factorBody depth)))
      Expression.calculation := by
  have elements := Json.consumes_listed (reads_token Json.reads_valueParser)
  have members := Json.consumes_listed (Json.reads_memberParser Json.reads_valueParser)
  have pieces := Consumes.stringPiece.before (fun piece _ => piece) (Reads.succeed ())
  have factors : Consumes ((Expression.operationParser Expression.factorParser ["*", "/"]).drop (succeed ())) :=
    Expression.consumes_operation Expression.reads_factorParser (by decide)
  have terms : Consumes ((Expression.operationParser Expression.termParser ["+", "-"]).drop (succeed ())) :=
    Expression.consumes_operation (Expression.reads_chain Expression.reads_factorParser _) (by decide)
  exact ⟨Json.callsBelow_watchedValue, Expression.callsBelow_watchedFactor, elements, members, pieces,
    factors, terms, Json.nests_valueParser, Json.nests_document, Expression.nests_factorParser,
    Expression.nests_termParser, Expression.nests_expressionParser, Expression.nests_calculation⟩

end ParserAlgebra
