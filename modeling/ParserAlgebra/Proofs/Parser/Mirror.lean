import Mathlib.Data.List.Forall2
import ParserAlgebra.Proofs.Parser.Numeral
import ParserAlgebra.Proofs.Parser.Quoted
import ParserAlgebra.Proofs.Parser.Token

/-
This file compares a parser with a copy of it in which some parts are replaced.
-/

namespace ParserAlgebra

/-- A text is a proper end of another one, and so it is shorter. -/
def ProperEnd (rest source : Text) : Prop :=
  rest <:+ source ∧ rest.length < source.length

theorem ProperEnd.trans_suffix {inner rest source : Text} (proper : ProperEnd rest source)
    (within : inner <:+ rest) : ProperEnd inner source :=
  ⟨within.trans proper.1, Nat.lt_of_le_of_lt within.length_le proper.2⟩

/-- A computation mirrors another one if it gives the same value and all of its log entries are permitted. -/
structure Mirrored {α : Type} (permitted : Text → Prop) (copy original : Logged α) : Prop where
  same : copy.value = original.value
  noted : ∀ entry ∈ copy.log, permitted entry.message

namespace Mirrored

variable {α β : Type} {permitted : Text → Prop}

theorem pure (value : α) : Mirrored permitted (pure value) (pure value) :=
  ⟨rfl, fun _ member => absurd member List.not_mem_nil⟩

theorem bind {copy original : Logged α} {next other : α → Logged β}
    (first : Mirrored permitted copy original)
    (second : Mirrored permitted (next original.value) (other original.value)) :
    Mirrored permitted (copy >>= next) (original >>= other) := by
  constructor
  · rw [Logged.value_bind, Logged.value_bind, first.same]
    exact second.same
  · intro entry member
    rw [Logged.log_bind, first.same] at member
    rcases List.mem_append.1 member with here | behind
    · exact first.noted entry here
    · exact second.noted entry behind

end Mirrored

namespace Parser

variable {α β γ σ : Type} {permitted : Text → Prop} {source : Text}

/-- A parser mirrors another one on an input if its step does. -/
def Mirrors (permitted : Text → Prop) (copy original : Parser α) (source : Text) : Prop :=
  Mirrored permitted (copy.step source) (original.step source)

/-- A sequence is mirrored if its first part is, and if its second part is behind each success of the
first. -/
theorem Mirrors.stepThen {copy original : Parser α} {next other : α → Text → Logged (Outcome β)}
    (first : Mirrors permitted copy original source)
    (second : ∀ value rest, original.parse source = .success value rest →
      Mirrored permitted (next value rest) (other value rest)) :
    Mirrored permitted (copy.stepThen next source) (original.stepThen other source) := by
  refine Mirrored.bind first ?_
  cases parsed : (original.step source).value with
  | success value rest => exact second value rest parsed
  | failure reason => exact .pure _
  | fault reason => exact .pure _

theorem Mirrors.stepElse {copy original : Parser α} {alternative other : Text → Logged (Outcome α)}
    (first : Mirrors permitted copy original source)
    (second : Mirrored permitted (alternative source) (other source)) :
    Mirrored permitted (copy.stepElse alternative source) (original.stepElse other source) := by
  refine Mirrored.bind first ?_
  cases (original.step source).value with
  | success value rest => exact .pure _
  | failure reason => exact second
  | fault reason => exact .pure _

namespace Mirrors

variable {copy original : Parser α}

theorem parse_eq (mirrors : Mirrors permitted copy original source) :
    copy.parse source = original.parse source :=
  mirrors.same

theorem mono {larger : Text → Prop} (mirrors : Mirrors permitted copy original source)
    (within : ∀ {rest}, permitted rest → larger rest) : Mirrors larger copy original source :=
  ⟨mirrors.same, fun entry member => within (mirrors.noted entry member)⟩

/-- Where every log entry is permitted, the outcome alone counts. -/
theorem of_parse_eq (same : copy.parse source = original.parse source) :
    Mirrors (fun _ => True) copy original source :=
  ⟨same, fun _ _ => trivial⟩

theorem transform (f : α → β) (inner : Mirrors permitted copy original source) :
    Mirrors permitted (copy.transform f) (original.transform f) source :=
  inner.stepThen fun _ _ _ => .pure _

theorem raising {copy original : Parser (Except Fault α)} (inner : Mirrors permitted copy original source) :
    Mirrors permitted copy.raising original.raising source := by
  refine inner.stepThen fun result rest _ => ?_
  cases result with
  | ok value => exact .pure _
  | error fault => exact .pure _

theorem andThen {next other : α → Parser β} (first : Mirrors permitted copy original source)
    (second : ∀ value rest, original.parse source = .success value rest →
      Mirrors permitted (next value) (other value) rest) :
    Mirrors permitted (copy.andThen next) (original.andThen other) source :=
  first.stepThen second

theorem map2 {next other : Parser β} (f : α → β → γ) (first : Mirrors permitted copy original source)
    (second : ∀ value rest, original.parse source = .success value rest →
      Mirrors permitted next other rest) :
    Mirrors permitted (map2 f copy next) (map2 f original other) source :=
  first.stepThen fun value rest parsed => (second value rest parsed).stepThen fun _ _ _ => .pure _

theorem oneOf {copies originals : List (Parser α)}
    (each : List.Forall₂ (fun copy original => Mirrors permitted copy original source) copies originals) :
    Mirrors permitted (oneOf copies) (oneOf originals) source := by
  induction each with
  | nil => exact .pure _
  | cons here others inductionHypothesis =>
      cases others with
      | nil => exact here
      | cons second others => exact here.stepElse inductionHypothesis

theorem optional (inner : Mirrors permitted copy original source) :
    Mirrors permitted copy.optional original.optional source := by
  simp only [Mirrors, Parser.optional]
  refine (inner.transform some).stepElse ?_
  exact .pure _

end Mirrors

/-- A parser mirrors another one on all ends of an input. -/
def MirrorsEnds (permitted : Text → Prop) (copy original : Parser α) (source : Text) : Prop :=
  ∀ rest, rest <:+ source → Mirrors permitted copy original rest

/-- A parser mirrors another one on all proper ends of an input. -/
def MirrorsBelow (permitted : Text → Prop) (copy original : Parser α) (source : Text) : Prop :=
  ∀ rest, ProperEnd rest source → Mirrors permitted copy original rest

theorem MirrorsBelow.ends {copy original : Parser α} {rest : Text}
    (below : MirrorsBelow permitted copy original source) (proper : ProperEnd rest source) :
    MirrorsEnds permitted copy original rest :=
  fun final within => below final (proper.trans_suffix within)

namespace MirrorsEnds

variable {copy original : Parser α} {language : Language α}

theorem here (ends : MirrorsEnds permitted copy original source) : Mirrors permitted copy original source :=
  ends source List.suffix_rfl

theorem map2 {next other : Parser β} (f : α → β → γ) (reads : Reads original language)
    (first : MirrorsEnds permitted copy original source) (second : MirrorsEnds permitted next other source) :
    MirrorsEnds permitted (map2 f copy next) (map2 f original other) source :=
  fun rest within => (first rest within).map2 f fun _ final parsed =>
    second final ((reads.suffix parsed).trans within)

/-- The induction is on the length of the end, which each unit that goes on makes shorter. -/
theorem many {separator between : Parser σ} {mark : Language σ} (readsElement : Reads original language)
    (readsSeparator : Reads between mark) (element : MirrorsEnds permitted copy original source)
    (apart : MirrorsEnds permitted separator between source) :
    MirrorsEnds permitted (many copy separator) (many original between) source := by
  intro rest within
  induction bound : rest.length using Nat.strongRecOn generalizing rest with
  | ind bound inductionHypothesis =>
      subst bound
      have unit : Mirrors permitted (copy.drop separator) (original.drop between) rest :=
        element.map2 _ readsElement apart rest within
      change Mirrored permitted (manyFrom copy separator rest) (manyFrom original between rest)
      rw [manyFrom, manyFrom]
      refine unit.bind ?_
      cases parsed : ((original.drop between).step rest).value with
      | success value final =>
          have behind : final <:+ rest := (readsElement.drop readsSeparator).suffix parsed
          dsimp only
          split
          · rename_i shorter
            exact (inductionHypothesis _ shorter final (behind.trans within) rfl).bind (.pure _)
          · exact .pure _
      | failure reason =>
          refine (element rest within).bind ?_
          cases (original.step rest).value with
          | success value final => exact .pure _
          | failure reason => exact .pure _
          | fault reason => exact .pure _
      | fault reason => exact .pure _

end MirrorsEnds

/-- A parser is quiet if it writes no log, so that it mirrors itself everywhere. -/
def Quiet (parser : Parser α) : Prop :=
  ∀ permitted source, Mirrors permitted parser parser source

namespace Quiet

theorem mirrors {parser : Parser α} (quiet : Quiet parser) : Mirrors permitted parser parser source :=
  quiet permitted source

theorem ends {parser : Parser α} (quiet : Quiet parser) : MirrorsEnds permitted parser parser source :=
  fun _ _ => quiet.mirrors

theorem ofOutcome (name : Text) (answer : Text → Outcome α) : Quiet (ofOutcome name answer) :=
  fun _ _ => .pure _

theorem rename {parser : Parser α} (name : Option Text) (inner : Quiet parser) : Quiet (parser.rename name) :=
  inner

theorem transform {parser : Parser α} (f : α → β) (inner : Quiet parser) : Quiet (parser.transform f) :=
  fun _ _ => inner.mirrors.transform f

theorem raising {parser : Parser (Except Fault α)} (inner : Quiet parser) : Quiet parser.raising :=
  fun _ _ => inner.mirrors.raising

theorem map2 {first : Parser α} {second : Parser β} (f : α → β → γ) (left : Quiet first)
    (right : Quiet second) : Quiet (map2 f first second) :=
  fun _ _ => left.mirrors.map2 f fun _ _ _ => right.mirrors

theorem andThen {parser : Parser α} {next : α → Parser β} (first : Quiet parser)
    (second : ∀ value, Quiet (next value)) : Quiet (parser.andThen next) :=
  fun _ _ => first.mirrors.andThen fun value _ _ => (second value).mirrors

theorem optional {parser : Parser α} (inner : Quiet parser) : Quiet parser.optional :=
  fun _ _ => inner.mirrors.optional

theorem oneOf {alternatives : List (Parser α)} (each : ∀ alternative ∈ alternatives, Quiet alternative) :
    Quiet (oneOf alternatives) :=
  fun _ _ => .oneOf (List.forall₂_same.2 fun alternative member => (each alternative member).mirrors)

theorem succeed (value : α) : Quiet (succeed value) :=
  ofOutcome _ _

theorem string (literal : Text) : Quiet (string literal) :=
  ofOutcome _ _

theorem takeIf (test : CodePoint → Bool) : Quiet (takeIf test) :=
  ofOutcome _ _

theorem takeWhile (test : CodePoint → Bool) : Quiet (takeWhile test) :=
  ofOutcome _ _

theorem takeIfAndWhile (test : CodePoint → Bool) : Quiet (takeIfAndWhile test) :=
  ((takeIf test).map2 _ (takeWhile test)).rename _

theorem literals (literals : List Text) : Quiet (Parser.oneOf (literals.map Parser.string)) := by
  refine oneOf fun alternative member => ?_
  obtain ⟨literal, -, rfl⟩ := List.mem_map.1 member
  exact string literal

theorem spaces : Quiet spaces :=
  (((takeWhile isSpace).transform _).rename _).rename _

theorem whitespace : Quiet whitespace :=
  (((takeWhile isWhitespace).transform _).rename _).rename _

theorem integerNumber : Quiet integerNumber :=
  ((takeIfAndWhile isDigit).andThen fun _ => ofOutcome _ _).rename _

theorem realNumber : Quiet realNumber := by
  have digits : Quiet digits := takeIfAndWhile isDigit
  exact ((((succeed readReal).map2 _ digits).map2 _ (string ".")).map2 _ digits).rename _

theorem stringPiece : Quiet stringPiece := by
  have digit : Quiet hexadecimalDigit := takeIf _
  have numbered : Quiet unicodeEscape :=
    (((((succeed _).map2 _ (string "u")).map2 _ digit).map2 _ digit).map2 _ digit).map2 _ digit
  have escape : Quiet (escapeSequence standardEscapes standardEscape) := by
    refine ((succeed _).map2 _ (string _)).map2 _ (oneOf fun alternative member => ?_)
    rcases List.mem_append.1 member with listed | last
    · obtain ⟨entry, -, rfl⟩ := List.mem_map.1 listed
      exact ((string entry.1).transform _).rename _
    · cases List.mem_singleton.1 last
      exact numbered
  refine oneOf fun alternative member => ?_
  simp only [List.mem_cons, List.not_mem_nil, or_false] at member
  rcases member with rfl | rfl
  · exact escape
  · exact takeIfAndWhile _

theorem standardString : Quiet standardString := by
  have content : Quiet stringContent := fun _ _ =>
    (MirrorsEnds.many reads_stringPiece (Reads.succeed ()) stringPiece.ends (succeed ()).ends).here
  exact (((succeed _).map2 _ (string _)).map2 _ content).map2 _ (string _)

end Quiet

/-- A parser consumes if each success takes at least one code point. -/
def Consumes (parser : Parser α) : Prop :=
  Reads parser fun text _ => text ≠ []

namespace Consumes

theorem proper {parser : Parser α} (consumes : Consumes parser) {rest : Text} {value : α}
    (parsed : parser.parse source = .success value rest) : ProperEnd rest source := by
  obtain ⟨text, rfl, nonempty⟩ := consumes parsed
  have longer : 0 < text.length := List.length_pos_iff.2 nonempty
  refine ⟨List.suffix_append text rest, ?_⟩
  rw [List.length_append]
  omega

theorem string {literal : Text} (nonempty : literal ≠ []) : Consumes (string literal) :=
  (Reads.string literal).mono fun member => member.1 ▸ nonempty

theorem before {first : Parser α} {second : Parser β} {language : Language β} (f : α → β → γ)
    (consumes : Consumes first) (reads : Reads second language) : Consumes (map2 f first second) := by
  refine (Reads.map2 f consumes reads).mono ?_
  rintro _ value ⟨start, finish, _, _, rfl, nonempty, -, -⟩
  exact List.append_ne_nil_of_left_ne_nil nonempty finish

theorem after {first : Parser α} {second : Parser β} {language : Language α} (f : α → β → γ)
    (reads : Reads first language) (consumes : Consumes second) : Consumes (map2 f first second) := by
  refine (reads.map2 f consumes).mono ?_
  rintro _ value ⟨start, finish, _, _, rfl, -, nonempty, -⟩
  exact List.append_ne_nil_of_right_ne_nil start nonempty

/-- Each piece of a string is an escape or a run of plain code points, and neither is empty. -/
theorem stringPiece : Consumes stringPiece := by
  refine Reads.oneOf fun alternative member => ?_
  simp only [List.mem_cons, List.not_mem_nil, or_false] at member
  rcases member with rfl | rfl
  · refine reads_escapeSequence.mono fun {text value} unit => ?_
    cases unit with
    | plain noQuote noEscape => exact List.cons_ne_nil _ _
    | escape known => exact List.append_ne_nil_of_left_ne_nil (by decide) _
    | numbered four run =>
        rw [List.append_assoc]
        exact List.append_ne_nil_of_left_ne_nil (by decide) _
  · exact (Reads.takeIfAndWhile _).mono fun reading => reading.1 ▸ reading.2.1

end Consumes

section Sequences

variable {copy original : Parser α} {front final : Parser β}

theorem Mirrors.followed (f : α → β → γ) (inner : Mirrors permitted copy original source)
    (quiet : Quiet final) :
    Mirrors permitted (Parser.map2 f copy final) (Parser.map2 f original final) source :=
  inner.map2 f fun _ _ _ => quiet.mirrors

/-- What stands behind a quiet part that consumes is run on proper ends of the input only. -/
theorem MirrorsBelow.behind (f : β → α → γ) (quiet : Quiet front) (consumes : Consumes front)
    (below : MirrorsBelow permitted copy original source) :
    Mirrors permitted (Parser.map2 f front copy) (Parser.map2 f front original) source :=
  quiet.mirrors.map2 f fun _ rest parsed => below rest (consumes.proper parsed)

theorem MirrorsEnds.behind {language : Language β} (f : β → α → γ) (quiet : Quiet front)
    (reads : Reads front language) (ends : MirrorsEnds permitted copy original source) :
    MirrorsEnds permitted (Parser.map2 f front copy) (Parser.map2 f front original) source :=
  quiet.ends.map2 f reads ends

theorem MirrorsEnds.token (ends : MirrorsEnds permitted copy original source) :
    MirrorsEnds permitted (token copy) (token original) source := by
  have blank : Quiet ((succeed fun (value : α) => value).drop whitespace) :=
    (Quiet.succeed _).map2 _ .whitespace
  have front := (Reads.succeed fun (value : α) => value).drop reads_whitespace
  exact fun rest within => (ends.behind _ blank front rest within).followed _ .whitespace

end Sequences

end Parser

end ParserAlgebra
