import ParserAlgebra.Grammar.Calculator
import ParserAlgebra.Proofs.Parser.Numeral

/-
This file describes the parsers that the combinators build.
-/

namespace ParserAlgebra.Parser

variable {α β γ σ : Type} {allowed : Failure → Prop}

/-- These parsers are built of no others, and lifted results fail with allowed failures only. -/
inductive Primitive (allowed : Failure → Prop) : {α : Type} → Parser α → Prop where
  | anyPoint : Primitive allowed anyPoint
  | endOfFile : Primitive allowed endOfFile
  | string (literal : Text) : Primitive allowed (string literal)
  | takeIf (test : CodePoint → Bool) : Primitive allowed (takeIf test)
  | takeWhile (test : CodePoint → Bool) : Primitive allowed (takeWhile test)
  | integerNumber : Primitive allowed integerNumber
  | succeed {α : Type} (value : α) : Primitive allowed (succeed value)
  | fromOption {α : Type} (value : Option α) (missing : Failure)
      (permitted : value = none → allowed missing) : Primitive allowed (fromOption value missing)
  | fromResult {α : Type} (result : Except Failure α)
      (permitted : ∀ reason, result = .error reason → allowed reason) :
      Primitive allowed (fromResult result)
  | fromVerdict {α : Type} (verdict : Logged (Verdict α))
      (permitted : ∀ reason, verdict.value = .failure reason → allowed reason) :
      Primitive allowed (fromVerdict verdict)
  | abort {α : Type} (fault : Fault) : Primitive allowed (abort fault : Parser α)

/-- These parsers are built of primitive ones by any nesting of the combinators. -/
inductive Composed (allowed : Failure → Prop) : {α : Type} → Parser α → Prop where
  | primitive {α : Type} {parser : Parser α} (primitive : Primitive allowed parser) :
      Composed allowed parser
  | rename {α : Type} {parser : Parser α} (name : Option Text) (inner : Composed allowed parser) :
      Composed allowed (parser.rename name)
  | transform {α β : Type} {parser : Parser α} (f : α → β) (inner : Composed allowed parser) :
      Composed allowed (parser.transform f)
  | raising {α : Type} {parser : Parser (Except Fault α)} (inner : Composed allowed parser) :
      Composed allowed parser.raising
  | andThen {α β : Type} {parser : Parser α} {next : α → Parser β} (first : Composed allowed parser)
      (second : ∀ value, Composed allowed (next value)) : Composed allowed (parser.andThen next)
  | map2 {α β γ : Type} {left : Parser α} {right : Parser β} (f : α → β → γ)
      (first : Composed allowed left) (second : Composed allowed right) :
      Composed allowed (map2 f left right)
  -- A delayed parser may look up another parser for each input, so recursive parsers are unrolled this way.
  | delayed {α : Type} {unfold : Text → Parser α} (each : ∀ source, Composed allowed (unfold source)) :
      Composed allowed (delayed fun source => (unfold source).step source)
  | oneOf {α : Type} {alternatives : List (Parser α)}
      (each : ∀ alternative ∈ alternatives, Composed allowed alternative) :
      Composed allowed (oneOf alternatives)
  | optional {α : Type} {parser : Parser α} (inner : Composed allowed parser) :
      Composed allowed parser.optional
  | many {α σ : Type} {element : Parser α} {separator : Parser σ} (first : Composed allowed element)
      (second : Composed allowed separator) : Composed allowed (many element separator)

namespace Composed

theorem map {parser : Parser α} (f : α → β) (inner : Composed allowed parser) :
    Composed allowed (parser.map f) :=
  (inner.transform f).rename _

theorem keep {function : Parser (α → β)} {argument : Parser α} (first : Composed allowed function)
    (second : Composed allowed argument) : Composed allowed (function.keep argument) :=
  first.map2 _ second

theorem drop {keeper : Parser α} {ignored : Parser σ} (first : Composed allowed keeper)
    (second : Composed allowed ignored) : Composed allowed (keeper.drop ignored) :=
  first.map2 _ second

theorem succeed (value : α) : Composed allowed (succeed value) :=
  .primitive (.succeed value)

theorem string (literal : Text) : Composed allowed (string literal) :=
  .primitive (.string literal)

theorem takeIfAndWhile (test : CodePoint → Bool) : Composed allowed (takeIfAndWhile test) :=
  (map2 _ (.primitive (.takeIf test)) (.primitive (.takeWhile test))).rename _

theorem spaces : Composed allowed spaces :=
  (map _ (.primitive (.takeWhile isSpace))).rename _

theorem whitespace : Composed allowed whitespace :=
  (map _ (.primitive (.takeWhile isWhitespace))).rename _

theorem integerNumber : Composed allowed integerNumber :=
  .primitive .integerNumber

theorem realNumber : Composed allowed realNumber :=
  ((((succeed readReal).keep (takeIfAndWhile isDigit)).drop (string ".")).keep
    (takeIfAndWhile isDigit)).rename _

theorem literals (literals : List Text) : Composed allowed (Parser.oneOf (literals.map Parser.string)) := by
  refine .oneOf fun alternative member => ?_
  obtain ⟨literal, -, rfl⟩ := List.mem_map.1 member
  exact .string literal

/-- A recursive parser calls itself on shorter inputs only, and may be unrolled on each of
them. -/
theorem below_fix {body : Parser α → Parser α}
    (closed : ∀ {parser}, Composed allowed parser → Composed allowed (body parser)) (bound : Nat) :
    Composed allowed ((Parser.fix body).below bound) := by
  induction bound using Nat.strongRecOn with
  | ind bound inductionHypothesis =>
      let unfold (rest : Text) : Parser α :=
        if rest.length < bound then body ((Parser.fix body).below rest.length)
        else Parser.abort .unboundedRecursion
      have same : (Parser.fix body).below bound = Parser.delayed fun rest => (unfold rest).step rest := by
        simp only [Parser.below, unfold]
        congr 1
        funext rest
        split
        · exact fixStep.eq_1 body rest
        · rfl
      rw [same]
      refine .delayed fun rest => ?_
      by_cases shorter : rest.length < bound
      · simpa only [unfold, if_pos shorter] using closed (inductionHypothesis _ shorter)
      · simpa only [unfold, if_neg shorter] using .primitive (.abort _)

/-- A recursive parser is composed if its body is, whatever composed parser it is given. -/
theorem fix {body : Parser α → Parser α}
    (closed : ∀ {parser}, Composed allowed parser → Composed allowed (body parser)) :
    Composed allowed (Parser.fix body) := by
  have same : Parser.fix body = (Parser.delayed fun source =>
      (body ((Parser.fix body).below source.length)).step source).rename (Parser.fix body).name := by
    simp only [Parser.fix, Parser.rename, Parser.delayed, Parser.below]
    congr 1
    funext source
    exact fixStep.eq_1 body source
  rw [same]
  exact .rename _ (.delayed fun source => closed (below_fix closed source.length))

end Composed

/-- What a primitive parser leaves is an end of its input. -/
theorem Primitive.reads {parser : Parser α} (primitive : Primitive allowed parser) :
    Reads parser fun _ _ => True := by
  cases primitive with
  | anyPoint => exact Reads.anyPoint.mono fun _ => trivial
  | endOfFile => exact Reads.endOfFile.mono fun _ => trivial
  | string literal => exact (Reads.string literal).mono fun _ => trivial
  | takeIf test => exact (Reads.takeIf test).mono fun _ => trivial
  | takeWhile test => exact (Reads.takeWhile test).mono fun _ => trivial
  | integerNumber => exact reads_integerNumber.mono fun _ => trivial
  | succeed value => exact (Reads.succeed value).mono fun _ => trivial
  | fromOption value missing => exact (Reads.fromOption value missing).mono fun _ => trivial
  | fromResult result => exact (Reads.fromResult result).mono fun _ => trivial
  | fromVerdict verdict => exact (Reads.fromVerdict verdict).mono fun _ => trivial
  | abort fault => exact Reads.abort fault _

/-- What a composed parser leaves is an end of its input. -/
theorem Composed.reads {parser : Parser α} (composed : Composed allowed parser) :
    Reads parser fun _ _ => True := by
  induction composed with
  | primitive primitive => exact primitive.reads
  | rename name _ inner => exact inner.rename name
  | transform f _ inner => exact (inner.transform f).mono fun _ => trivial
  | raising _ inner => exact inner.raising
  | andThen _ _ first second => exact (first.andThen second).mono fun _ => trivial
  | map2 f _ _ first second => exact (first.map2 f second).mono fun _ => trivial
  | delayed _ each => exact Reads.delayed each
  | oneOf _ each => exact Reads.oneOf each
  | optional _ inner => exact inner.optional.mono fun _ => trivial
  | many _ _ first second => exact (first.many second).mono fun _ => trivial

/-- Operands with operators between them are composed if the operands are. -/
theorem composed_chain {operand : Parser Expression} (inner : Composed allowed operand)
    (operators : List Text) : Composed allowed (Expression.chain operand operators) := by
  have operation : Composed allowed (Expression.operationParser operand operators) :=
    ((((Composed.succeed _).drop .spaces).keep (.literals operators)).drop .spaces).keep inner
  exact ((Composed.succeed _).keep inner).keep (operation.many (.succeed _))

/-- Factors are composed, although they contain expressions and thus factors. -/
theorem composed_factorParser : Composed allowed Expression.factorParser := by
  refine Composed.fix fun {factor} inner => .oneOf fun alternative member => ?_
  have expression : Composed allowed (Expression.expressionOf factor) :=
    composed_chain (composed_chain inner _) _
  have parenthesized : Composed allowed (Expression.parenthesized (Expression.expressionOf factor)) :=
    (((((Composed.succeed _).drop (.string _)).drop .spaces).keep
      (.delayed fun _ => expression)).drop .spaces).drop (.string _)
  have negated : Composed allowed (Expression.negated factor) :=
    ((Composed.succeed _).drop (.string _)).keep inner
  simp only [List.mem_cons, List.not_mem_nil, or_false] at member
  rcases member with rfl | rfl | rfl | rfl
  · exact Composed.realNumber.transform _
  · exact Composed.integerNumber.transform _
  · exact parenthesized
  · exact negated

/-- The rest that a composed parser leaves is the input without what was consumed. -/
theorem composed_rest_suffix {parser : Parser α} (composed : Composed allowed parser)
    {source rest : Text} {value : α} (parsed : parser.parse source = .success value rest) :
    ∃ consumed, source = consumed ++ rest := by
  obtain ⟨consumed, shape, -⟩ := composed.reads parsed
  exact ⟨consumed, shape⟩

/-- The parser of factors leaves what stands behind a nested factor. -/
theorem rest_suffix_of_factor :
    Expression.factorParser.parse "(-(2))*3" =
        .success (.negation (.number (.integer 2))) "*3" ∧
      ∃ consumed, ("(-(2))*3" : Text) = consumed ++ ("*3" : Text) := by
  have parsed : Expression.factorParser.parse "(-(2))*3" =
      .success (.negation (.number (.integer 2))) "*3" := by decide +kernel
  have composed : Composed (fun _ => True) Expression.factorParser := composed_factorParser
  exact ⟨parsed, composed_rest_suffix composed parsed⟩

end ParserAlgebra.Parser
