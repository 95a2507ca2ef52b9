import ParserAlgebra.Grammar.Json
import ParserAlgebra.Grammar.Wallet
import ParserAlgebra.Proofs.Parser.Composition

namespace ParserAlgebra

open ParserAlgebra.Parser

variable {α : Type} {allowed : Failure → Prop}

/-- This condition allows a lifted result to fail with any failure. -/
abbrev anyFailure : Failure → Prop :=
  fun _ => True

namespace Parser

theorem composed_digits : Composed allowed digits :=
  .takeIfAndWhile isDigit

theorem composed_fromResult (result : Except Failure α) : Composed anyFailure (fromResult result) :=
  .primitive (.fromResult result fun _ _ => trivial)

theorem composed_fromOption (value : Option α) (missing : Failure) :
    Composed anyFailure (fromOption value missing) :=
  .primitive (.fromOption value missing fun _ => trivial)

theorem composed_fromVerdict (verdict : Logged (Verdict α)) : Composed anyFailure (fromVerdict verdict) :=
  .primitive (.fromVerdict verdict fun _ _ => trivial)

theorem composed_abort (fault : Fault) : Composed allowed (abort fault : Parser α) :=
  .primitive (.abort fault)

theorem composed_token {parser : Parser α} (inner : Composed allowed parser) :
    Composed allowed (token parser) :=
  (((Composed.succeed _).drop .whitespace).keep inner).drop .whitespace

theorem composed_signed {parser : Parser α} (negate : α → α) (inner : Composed allowed parser) :
    Composed allowed (signed negate parser) :=
  ((Composed.succeed _).keep (.optional (.string _))).keep inner

theorem composed_identifier : Composed allowed identifier :=
  .map2 _ (.primitive (.takeIf _)) (.primitive (.takeWhile _))

theorem composed_unicodeEscape : Composed allowed unicodeEscape := by
  have digit : Composed allowed hexadecimalDigit := .primitive (.takeIf _)
  exact (((((Composed.succeed _).drop (.string _)).keep digit).keep digit).keep digit).keep digit

theorem composed_escapeSequence (escapes : EscapeTable) (escape : Text) :
    Composed allowed (escapeSequence escapes escape) := by
  refine ((Composed.succeed _).drop (.string _)).keep (.oneOf fun alternative member => ?_)
  rcases List.mem_append.1 member with listed | last
  · obtain ⟨entry, -, rfl⟩ := List.mem_map.1 listed
    exact (Composed.string entry.1).map _
  · cases List.mem_singleton.1 last
    exact composed_unicodeEscape

theorem composed_quotedString (quote escape : Text) (escapes : EscapeTable) :
    Composed allowed (quotedString quote escape escapes) := by
  have piece : Composed allowed (oneOf [escapeSequence escapes escape,
      takeIfAndWhile (isPlain quote escape)]) := by
    refine .oneOf fun alternative member => ?_
    simp only [List.mem_cons, List.not_mem_nil, or_false] at member
    rcases member with rfl | rfl
    · exact composed_escapeSequence escapes escape
    · exact .takeIfAndWhile _
  exact (((Composed.succeed _).drop (.string quote)).keep (piece.many (.succeed _))).drop (.string quote)

end Parser

namespace Money

theorem composed_amountParser : Composed allowed amountParser := by
  have fraction : Composed allowed (((succeed fun (places : Text) => places).drop (string ".")).keep digits) :=
    ((Composed.succeed _).drop (.string ".")).keep composed_digits
  exact ((Composed.succeed _).keep composed_digits).keep (.optional fraction)

theorem composed_codeParser : Composed anyFailure codeParser := by
  refine .andThen (.takeIfAndWhile _) fun code => ?_
  unfold checkCurrency
  split
  · exact .succeed code
  · exact composed_fromResult _

theorem composed_symbolParser : Composed allowed symbolParser := by
  refine .oneOf fun alternative member => ?_
  obtain ⟨entry, -, rfl⟩ := List.mem_map.1 member
  exact (Composed.string entry.1).map _

theorem composed_moneyParser : Composed anyFailure moneyParser := by
  refine .oneOf fun alternative member => ?_
  simp only [List.mem_cons, List.not_mem_nil, or_false] at member
  rcases member with rfl | rfl
  · exact (((Composed.succeed _).keep composed_symbolParser).drop .spaces).keep composed_amountParser
  · exact (((Composed.succeed _).keep composed_amountParser).drop .spaces).keep composed_codeParser

end Money

theorem Wallet.composed_walletParser : Composed anyFailure Wallet.walletParser := by
  have ending : Composed anyFailure Wallet.endOfEntries :=
    .andThen (.primitive (.takeWhile _)) fun leftover => composed_fromVerdict _
  have entries := (composed_token Money.composed_moneyParser).many (.string ",")
  exact (((Composed.succeed _).keep entries).drop .whitespace).drop ending

namespace Expression

theorem composed_termParser : Composed allowed termParser :=
  composed_chain composed_factorParser _

theorem composed_expressionParser : Composed allowed expressionParser :=
  composed_chain composed_termParser _

theorem composed_wholeExpression : Composed allowed wholeExpression :=
  ((((Composed.succeed _).drop .spaces).keep composed_expressionParser).drop .spaces).drop
    (.primitive .endOfFile)

/-- The only failure of a computation is a division by zero. -/
theorem verdict_eq_failure {tree : Expression} {reason : Failure}
    (failed : tree.verdict = .failure reason) : reason = zeroDivision := by
  unfold verdict at failed
  split at failed <;> cases failed
  · rfl
  · rfl

theorem composed_calculation (divided : allowed zeroDivision) : Composed allowed calculation := by
  refine composed_wholeExpression.andThen fun tree => .primitive (.fromVerdict _ fun reason failed => ?_)
  rwa [verdict_eq_failure failed]

end Expression

namespace Json

theorem composed_keyword (word : Text) (value : Json) : Composed allowed (keyword word value) :=
  (Composed.string word).map _

theorem composed_numberParser : Composed allowed numberParser := by
  have mantissa : Composed allowed mantissaPart := by
    refine .oneOf fun alternative member => ?_
    simp only [List.mem_cons, List.not_mem_nil, or_false] at member
    rcases member with rfl | rfl
    · exact Composed.realNumber.transform _
    · exact Composed.integerNumber.transform _
  have exponent : Composed allowed exponentPart :=
    (((Composed.succeed _).drop (.literals ["e", "E"])).keep
      (Composed.literals ["+", "-"]).optional).keep .integerNumber
  exact ((((Composed.succeed _).keep (Composed.string _).optional).keep mantissa).keep
    exponent.optional).raising

theorem composed_arrayParser {element : Parser Json} (inner : Composed allowed element) :
    Composed allowed (arrayParser element) := by
  have elements := (composed_token inner).many (.string ",")
  exact ((((Composed.succeed _).drop (.string _)).keep elements).drop .whitespace).drop (.string _)

theorem composed_objectParser {element : Parser Json} (inner : Composed allowed element) :
    Composed allowed (objectParser element) := by
  have member : Composed allowed (memberParser element) :=
    (((((Composed.succeed _).drop .whitespace).keep (composed_quotedString _ _ _)).drop .whitespace).drop
      (.string _)).keep (composed_token inner)
  exact ((((Composed.succeed _).drop (.string _)).keep (member.many (.string ","))).drop .whitespace).drop
    (.string _)

/-- Values are composed, although they contain values. -/
theorem composed_valueParser : Composed allowed valueParser := by
  refine Composed.fix fun {element} inner => .oneOf fun alternative member => ?_
  simp only [List.mem_cons, List.not_mem_nil, or_false] at member
  rcases member with rfl | rfl | rfl | rfl | rfl | rfl | rfl
  · exact (composed_objectParser inner).transform _
  · exact (composed_arrayParser inner).transform _
  · exact (composed_quotedString _ _ _).transform _
  · exact composed_numberParser.transform _
  · exact composed_keyword _ _
  · exact composed_keyword _ _
  · exact composed_keyword _ _

theorem composed_delayedValue : Composed allowed delayedValue :=
  .delayed fun _ => composed_valueParser

theorem composed_document : Composed allowed document :=
  (composed_token composed_valueParser).drop (.primitive .endOfFile)

end Json

end ParserAlgebra
