import ParserAlgebra.Description.Environment
import ParserAlgebra.Proofs.Grammar.Composition

namespace ParserAlgebra

open ParserAlgebra.Parser

variable {α : Type}

theorem KnownParser.composed (known : KnownParser) : Composed anyFailure known.parser := by
  cases known with
  | anyPoint => exact .transform _ (.primitive .anyPoint)
  | endOfFile => exact .transform _ (.primitive .endOfFile)
  | spaces => exact .transform _ .spaces
  | whitespace => exact .transform _ .whitespace
  | integerNumber => exact .transform _ .integerNumber
  | realNumber => exact .transform _ .realNumber
  | identifier => exact composed_identifier.transform _
  | unicodeEscape => exact composed_unicodeEscape.transform _
  | amount => exact Money.composed_amountParser.transform _
  | currencyCode => exact Money.composed_codeParser.transform _
  | currencySymbol => exact Money.composed_symbolParser.transform _
  | money => exact Money.composed_moneyParser.transform _
  | wallet => exact Wallet.composed_walletParser.transform _
  | factor => exact composed_factorParser.transform _
  | term => exact Expression.composed_termParser.transform _
  | expression => exact Expression.composed_expressionParser.transform _
  | calculation => exact (Expression.composed_calculation trivial).transform _
  | jsonNumber => exact Json.composed_numberParser.transform _
  | jsonArray => exact (Json.composed_arrayParser Json.composed_delayedValue).transform _
  | jsonObject => exact (Json.composed_objectParser Json.composed_delayedValue).transform _
  | jsonValue => exact Json.composed_valueParser.transform _
  | jsonDocument => exact Json.composed_document.transform _

/-- A parser that depends on names is composed wherever the names mean composed parsers. -/
def BoundParser.Closed (bound : BoundParser) : Prop :=
  ∀ lookup : Lookup, (∀ name, Composed anyFailure (lookup name)) → Composed anyFailure (bound lookup)

/-- A value that is no parser stops the run, in whatever place it stands. -/
def Built.Closed (built : Built) : Prop :=
  ∀ place, BoundParser.Closed fun lookup => built.toParser place lookup

def Selection.Closed (selection : Selection) : Prop :=
  ∀ value, BoundParser.Closed fun lookup => selection lookup value

theorem Built.closed_parser {bound : BoundParser} (closed : bound.Closed) : (Built.parser bound).Closed :=
  fun _ => closed

theorem Built.closed_plain (value : Value) : (Built.plain value).Closed :=
  fun _ _ _ => composed_abort _

theorem Built.closed_require {built : Built} {bound : BoundParser} {place : ParserPlace}
    (closed : built.Closed) (required : built.require place = .ok bound) : bound.Closed := by
  cases built with
  | parser parser =>
      cases required
      exact closed place
  | plain value => cases required

/-- A computation with two steps succeeds if both steps do. -/
theorem bind_eq_ok {ε β : Type} {first : Except ε α} {next : α → Except ε β} {result : β} :
    (first >>= next) = .ok result ↔ ∃ value, first = .ok value ∧ next value = .ok result := by
  cases first with
  | error reason => simp [bind, Except.bind]
  | ok value => simp [bind, Except.bind]

/-- Names that are met while a description is built stand for composed parsers. -/
def Resolves (resolve : Text → Except Fault BoundParser) : Prop :=
  ∀ ⦃name bound⦄, resolve name = .ok bound → bound.Closed

namespace Parser

theorem composed_mapValue {parser : Parser Value} (f : Value) (inner : Composed anyFailure parser) :
    Composed anyFailure (mapValue f parser) :=
  (inner.map _).raising

theorem composed_replicate {parser : Parser Value} (inner : Composed anyFailure parser) (count : Nat) :
    Composed anyFailure (replicate count parser) := by
  induction count with
  | zero => exact .succeed []
  | succ count inductionHypothesis => exact inner.map2 _ inductionHypothesis

theorem composed_fromOptionValue (value : Value) (missing : Failure) :
    Composed anyFailure (fromOptionValue value missing) := by
  unfold fromOptionValue
  split
  · exact composed_fromOption _ _
  · exact composed_fromOption _ _

end Parser

namespace Selection

theorem closed_literal : Closed literal := by
  intro value lookup names
  unfold literal
  split
  · exact (Composed.string _).transform _
  · exact composed_abort _

theorem closed_repeatText (text : Text) : Closed (repeatText text) := by
  intro value lookup names
  unfold repeatText
  split
  · exact (Composed.string _).transform _
  · exact composed_abort _

theorem closed_lessThan (limit : Int) (message : Text) : Closed (lessThan limit message) := by
  intro value lookup names
  unfold lessThan
  split
  · exact composed_fromResult _
  · exact composed_fromResult _

theorem closed_count {built : Built} (closed : built.Closed) : Closed (count built) := by
  intro value lookup names
  unfold count
  split
  · exact (composed_replicate (closed _ lookup names) _).transform _
  · exact composed_abort _

theorem closed_oneOfPoints : Closed oneOfPoints := by
  intro value lookup names
  unfold oneOfPoints
  split
  · refine .oneOf fun alternative member => ?_
    obtain ⟨points, -, rfl⟩ := List.mem_map.1 member
    exact (Composed.string points).transform _
  · exact composed_abort _

end Selection

theorem closed_alternatives {built : List Built} {parsers : List BoundParser}
    (closed : ∀ one ∈ built, one.Closed)
    (required : built.mapM (Built.require .alternatives) = .ok parsers) : ∀ bound ∈ parsers, bound.Closed := by
  induction built generalizing parsers with
  | nil =>
      cases required
      simp
  | cons first others inductionHypothesis =>
      rw [List.mapM_cons, bind_eq_ok] at required
      obtain ⟨bound, here, required⟩ := required
      rw [bind_eq_ok] at required
      obtain ⟨bounds, there, done⟩ := required
      cases done
      intro parser member
      rcases List.mem_cons.1 member with rfl | member
      · exact Built.closed_require (closed first (by simp)) here
      · exact inductionHypothesis (fun one known => closed one (by simp [known])) there parser member

/-- A description that is built each time its parser runs stands for a composed parser. -/
theorem closed_delayed {description : Description}
    (each : ∀ {resolve built}, Resolves resolve → description.build resolve = .ok built → built.Closed) :
    BoundParser.Closed fun lookup => Parser.delayed fun source =>
      match description.build fun name => .ok fun _ => lookup name with
      | .ok built => (built.toParser .thunk lookup).step source
      | .error fault => pure (.fault fault) := by
  intro lookup names
  have resolves : Resolves fun name => .ok fun _ => lookup name := by
    intro name bound found
    cases found
    exact fun _ _ => names name
  dsimp only
  cases done : description.build fun name => .ok fun _ => lookup name with
  | ok built => exact .delayed fun _ => each resolves done .thunk lookup names
  | error fault =>
      have stops : Composed anyFailure (Parser.delayed fun source => (abort fault : Parser Value).step source) :=
        .delayed fun _ => composed_abort fault
      exact stops

mutual

/-- What a description builds is composed, since each place that takes a parser gets a composed one. -/
theorem Description.closed_build : ∀ (description : Description) {resolve built}, Resolves resolve →
    description.build resolve = .ok built → built.Closed
  | .known parser, _, _, _, done => by
      cases done
      exact Built.closed_parser fun _ _ => parser.composed
  | .string literal, _, _, _, done => by
      cases done
      exact Built.closed_parser fun _ _ => (Composed.string literal).transform _
  | .symbol literal, _, _, _, done => by
      cases done
      exact Built.closed_parser fun _ _ => (composed_token (.string literal)).transform _
  | .takeIf test, _, _, _, done => by
      simp only [Description.build, bind_eq_ok] at done
      obtain ⟨accepts, -, done⟩ := done
      cases done
      exact Built.closed_parser fun _ _ => .transform _ (.primitive (.takeIf accepts))
  | .takeWhile test, _, _, _, done => by
      simp only [Description.build, bind_eq_ok] at done
      obtain ⟨accepts, -, done⟩ := done
      cases done
      exact Built.closed_parser fun _ _ => .transform _ (.primitive (.takeWhile accepts))
  | .takeIfAndWhile test, _, _, _, done => by
      simp only [Description.build, bind_eq_ok] at done
      obtain ⟨accepts, -, done⟩ := done
      cases done
      exact Built.closed_parser fun _ _ => .transform _ (.takeIfAndWhile accepts)
  | .map parser f, _, _, resolves, done => by
      simp only [Description.build, bind_eq_ok] at done
      obtain ⟨inner, here, function, -, done⟩ := done
      cases done
      exact Built.closed_parser fun lookup names =>
        composed_mapValue function (parser.closed_build resolves here .part lookup names)
  | .andThen parser callback, _, _, resolves, done => by
      simp only [Description.build, bind_eq_ok] at done
      obtain ⟨inner, here, selection, selected, done⟩ := done
      cases done
      exact Built.closed_parser fun lookup names =>
        .andThen (parser.closed_build resolves here .part lookup names) fun value =>
          callback.closed_build resolves selected value lookup names
  | .map2 first second f, _, _, resolves, done => by
      simp only [Description.build, bind_eq_ok] at done
      obtain ⟨left, here, right, there, function, -, done⟩ := done
      cases done
      exact Built.closed_parser fun lookup names =>
        ((first.closed_build resolves here .part lookup names).map2 _
          (second.closed_build resolves there .part lookup names)).raising
  | .delayedReference name, _, _, _, done => by
      cases done
      exact Built.closed_parser fun lookup names => .delayed fun _ => names name
  | .delayed parser, _, _, _, done => by
      cases done
      exact Built.closed_parser (closed_delayed parser.closed_build)
  | .delayedPlain value, _, _, _, done => by cases done
  | .oneOf alternatives, _, _, resolves, done => by
      simp only [Description.build, bind_eq_ok] at done
      obtain ⟨built, here, parsers, required, done⟩ := done
      cases done
      have closed := closed_alternatives (Description.closed_buildAll alternatives resolves here) required
      refine Built.closed_parser fun lookup names => .oneOf fun alternative member => ?_
      obtain ⟨bound, known, rfl⟩ := List.mem_map.1 member
      exact closed bound known lookup names
  | .optional parser, _, _, resolves, done => by
      simp only [Description.build, bind_eq_ok] at done
      obtain ⟨inner, here, done⟩ := done
      cases done
      exact Built.closed_parser fun lookup names =>
        (parser.closed_build resolves here .part lookup names).optional.transform _
  | .fromOption value missing, _, _, _, done => by
      cases done
      exact Built.closed_parser fun _ _ => composed_fromOptionValue _ _
  | .fromResult result, _, _, _, done => by
      cases done
      exact Built.closed_parser fun _ _ => composed_fromResult result
  | .succeed value, _, _, _, done => by
      cases done
      exact Built.closed_parser fun _ _ => .succeed value
  | .succeedFunction arity f, _, _, _, done => by
      cases done
      exact Built.closed_parser fun _ _ => .succeed _
  | .keep function argument, _, _, resolves, done => by
      simp only [Description.build, bind_eq_ok] at done
      obtain ⟨left, here, right, there, done⟩ := done
      cases done
      exact Built.closed_parser fun lookup names =>
        ((function.closed_build resolves here .part lookup names).map2 _
          (argument.closed_build resolves there .part lookup names)).raising
  | .drop keeper ignored, _, _, resolves, done => by
      simp only [Description.build, bind_eq_ok] at done
      obtain ⟨left, here, right, there, done⟩ := done
      cases done
      exact Built.closed_parser fun lookup names =>
        (keeper.closed_build resolves here .part lookup names).drop
          (ignored.closed_build resolves there .part lookup names)
  | .many element separator, _, _, resolves, done => by
      simp only [Description.build, bind_eq_ok] at done
      obtain ⟨left, here, right, there, done⟩ := done
      cases done
      exact Built.closed_parser fun lookup names =>
        ((element.closed_build resolves here .part lookup names).many
          (separator.closed_build resolves there .part lookup names)).transform _
  | .token parser, _, _, resolves, done => by
      simp only [Description.build, bind_eq_ok] at done
      obtain ⟨inner, here, done⟩ := done
      cases done
      exact Built.closed_parser fun lookup names =>
        composed_token (parser.closed_build resolves here .part lookup names)
  | .signed parser, _, _, resolves, done => by
      simp only [Description.build, bind_eq_ok] at done
      obtain ⟨inner, here, done⟩ := done
      cases done
      exact Built.closed_parser fun lookup names =>
        (composed_signed _ ((parser.closed_build resolves here .part lookup names).transform _)).raising
  | .escapeSequence escape escapes, _, _, _, done => by
      cases done
      exact Built.closed_parser fun _ _ => (composed_escapeSequence _ _).transform _
  | .quotedString quote escape escapes, _, _, _, done => by
      cases done
      exact Built.closed_parser fun _ _ => (composed_quotedString _ _ _).transform _
  | .rename parser name, _, _, resolves, done => by
      simp only [Description.build, bind_eq_ok] at done
      obtain ⟨inner, here, done⟩ := done
      cases done
      exact Built.closed_parser fun lookup names =>
        (parser.closed_build resolves here .part lookup names).rename name
  | .reference name, _, _, resolves, done => by
      simp only [Description.build, bind_eq_ok] at done
      obtain ⟨bound, found, done⟩ := done
      cases done
      exact Built.closed_parser (resolves found)
  | .plain value, _, _, _, done => by
      cases done
      exact Built.closed_plain value

theorem Description.closed_buildAll : ∀ (descriptions : List Description) {resolve built}, Resolves resolve →
    Description.buildAll resolve descriptions = .ok built → ∀ one ∈ built, one.Closed
  | [], _, _, _, done => by
      cases done
      simp
  | description :: descriptions, _, _, resolves, done => by
      simp only [Description.buildAll, bind_eq_ok] at done
      obtain ⟨first, here, others, there, done⟩ := done
      cases done
      intro one member
      rcases List.mem_cons.1 member with rfl | member
      · exact description.closed_build resolves here
      · exact Description.closed_buildAll descriptions resolves there one member

theorem Callback.closed_build : ∀ (callback : Callback) {resolve selection}, Resolves resolve →
    callback.build resolve = .ok selection → selection.Closed
  | .parser description, _, _, resolves, done => by
      simp only [Callback.build, bind_eq_ok] at done
      obtain ⟨built, here, done⟩ := done
      cases done
      exact fun _ => description.closed_build resolves here .callback
  | .succeed, _, _, _, done => by
      cases done
      exact fun value _ _ => .succeed value
  | .fromOption, _, _, _, done => by
      cases done
      exact fun value _ _ => composed_fromOptionValue value _
  | .string, _, _, _, done => by
      cases done
      exact Selection.closed_literal
  | .repeatText text, _, _, _, done => by
      cases done
      exact Selection.closed_repeatText text
  | .lessThan limit message, _, _, _, done => by
      cases done
      exact Selection.closed_lessThan limit message
  | .count description, _, _, resolves, done => by
      simp only [Callback.build, bind_eq_ok] at done
      obtain ⟨built, here, done⟩ := done
      cases done
      exact Selection.closed_count (description.closed_build resolves here)
  | .oneOfPoints, _, _, _, done => by
      cases done
      exact Selection.closed_oneOfPoints
  | .returning value, _, _, _, done => by
      cases done
      exact fun _ _ _ => composed_abort _
  | .plain value, _, _, _, done => by cases done

end

namespace Environment

theorem resolves_empty : Resolves (resolve ⟨[]⟩) := by
  intro name bound found
  cases found

/-- A definition may refer to the names that are defined before it. -/
theorem resolves_define {environment extended : Environment} {name : Text} {description : Description}
    (resolves : Resolves environment.resolve)
    (defined : environment.define name description = .ok extended) : Resolves extended.resolve := by
  simp only [define, build, bind_eq_ok] at defined
  obtain ⟨bound, ⟨built, here, required⟩, done⟩ := defined
  cases done
  have closed := Built.closed_require (description.closed_build resolves here) required
  intro other found resolved
  by_cases same : other = name
  · subst same
    simp only [resolve, Association.find?_insert_self] at resolved
    cases resolved
    exact closed
  · simp only [resolve, Association.find?_insert_of_ne same] at resolved
    exact resolves resolved

theorem resolves_foldlM (definitions : List (Text × Description)) {environment extended : Environment}
    (resolves : Resolves environment.resolve)
    (defined : definitions.foldlM (fun environment entry => environment.define entry.1 entry.2) environment =
      .ok extended) : Resolves extended.resolve := by
  induction definitions generalizing environment with
  | nil =>
      cases defined
      exact resolves
  | cons definition definitions inductionHypothesis =>
      rw [List.foldlM_cons, bind_eq_ok] at defined
      obtain ⟨next, here, there⟩ := defined
      exact inductionHypothesis (resolves_define resolves here) there

/-- Names stand for composed parsers, however deep their references are nested. -/
theorem composed_lookup {environment : Environment} (resolves : Resolves environment.resolve) (depth : Nat)
    (name : Text) : Composed anyFailure (environment.lookup depth name) := by
  induction depth generalizing name with
  | zero => exact composed_abort _
  | succ depth inductionHypothesis =>
      rw [lookup]
      dsimp only
      split
      · rename_i bound found
        exact resolves found _ inductionHypothesis
      · exact composed_abort _

/-- Every parser that can be described is composed, with grammars that refer to themselves and to each
other. -/
theorem composed_prepare {definitions : List (Text × Description)} {description : Description} {source : Text}
    {parser : Parser Value} (prepared : prepare definitions description source = .ok parser) :
    Composed anyFailure parser := by
  simp only [prepare, build, bind_eq_ok] at prepared
  obtain ⟨environment, defined, bound, ⟨built, here, required⟩, done⟩ := prepared
  cases done
  have resolves := resolves_foldlM definitions resolves_empty defined
  exact Built.closed_require (description.closed_build resolves here) required _ (composed_lookup resolves _)

end Environment

end ParserAlgebra
