import Mathlib.Data.List.Forall2
import ParserAlgebra.Parser.Lexeme

namespace ParserAlgebra.Parser

variable {ρ : Type} {kept : List Type}

/-- The arguments of a function, one for each type. -/
@[reducible] def Values : List Type → Type
  | [] => Unit
  | α :: kept => α × Values kept

/-- The functions that take their arguments one after the other. -/
@[reducible] def Curried : List Type → Type → Type
  | [], ρ => ρ
  | α :: kept, ρ => α → Curried kept ρ

/-- This function makes a function take its arguments one after the other. -/
def curry : {kept : List Type} → (Values kept → ρ) → Curried kept ρ
  | [], f => f ()
  | _ :: _, f => fun value => curry fun others => f (value, others)

/-- The stages of a pipeline from the first to the last, with the types of the values that are kept. -/
inductive Stages : List Type → Type 1 where
  | done : Stages []
  | keep {α : Type} {kept : List Type} (parser : Parser α) (others : Stages kept) : Stages (α :: kept)
  | drop {σ : Type} {kept : List Type} (parser : Parser σ) (others : Stages kept) : Stages kept

/-- This function appends stages to a parser that reads a function. -/
def Stages.append : {kept : List Type} → Stages kept → Parser (Curried kept ρ) → Parser ρ
  | _, .done, start => start
  | _, .keep parser others, start => others.append (start.keep parser)
  | _, .drop parser others, start => others.append (start.drop parser)

/-- This parser applies a function to the values of the stages that are kept. -/
def pipeline (f : Values kept → ρ) (stages : Stages kept) : Parser ρ :=
  stages.append (succeed (curry f))

/-- What ends a pipeline before its last stage has succeeded. -/
inductive Stop where
  | failure (reason : Failure)
  | fault (reason : Fault)

/-- This function gives the outcome of what has been stopped. -/
def Stop.outcome {α : Type} : Stop → Outcome α
  | failure reason => .failure reason
  | fault reason => .fault reason

/-- The stages succeed in order, with the values that are kept, the last rest and all log entries. -/
inductive Runs :
    {kept : List Type} → Stages kept → Text → Values kept → Text → List LogEntry → Prop where
  | done (source : Text) : Runs .done source () source []
  | keep {α : Type} {kept : List Type} {parser : Parser α} {others : Stages kept} {source middle rest : Text}
      {value : α} {values : Values kept} {log later : List LogEntry}
      (here : parser.step source = ⟨.success value middle, log⟩)
      (behind : Runs others middle values rest later) :
      Runs (.keep parser others) source (value, values) rest (log ++ later)
  | drop {σ : Type} {kept : List Type} {parser : Parser σ} {others : Stages kept} {source middle rest : Text}
      {mark : σ} {values : Values kept} {log later : List LogEntry}
      (here : parser.step source = ⟨.success mark middle, log⟩)
      (behind : Runs others middle values rest later) :
      Runs (.drop parser others) source values rest (log ++ later)

/-- One of the stages is the first that does not succeed, and the stages behind it write no log entries. -/
inductive Breaks : {kept : List Type} → Stages kept → Text → Stop → List LogEntry → Prop where
  | keep {α : Type} {kept : List Type} {parser : Parser α} {source : Text} {stop : Stop} {log : List LogEntry}
      (others : Stages kept) (here : parser.step source = ⟨stop.outcome, log⟩) :
      Breaks (.keep parser others) source stop log
  | drop {σ : Type} {kept : List Type} {parser : Parser σ} {source : Text} {stop : Stop} {log : List LogEntry}
      (others : Stages kept) (here : parser.step source = ⟨stop.outcome, log⟩) :
      Breaks (.drop parser others) source stop log
  | behindKeep {α : Type} {kept : List Type} {parser : Parser α} {others : Stages kept}
      {source middle : Text} {value : α} {stop : Stop} {log later : List LogEntry}
      (here : parser.step source = ⟨.success value middle, log⟩)
      (behind : Breaks others middle stop later) :
      Breaks (.keep parser others) source stop (log ++ later)
  | behindDrop {σ : Type} {kept : List Type} {parser : Parser σ} {others : Stages kept}
      {source middle : Text} {mark : σ} {stop : Stop} {log later : List LogEntry}
      (here : parser.step source = ⟨.success mark middle, log⟩)
      (behind : Breaks others middle stop later) :
      Breaks (.drop parser others) source stop (log ++ later)

/-- The answer of stages that run in order: the function of the values that are kept, or what the first
stage that does not succeed gives. -/
inductive Answers (f : Values kept → ρ) (stages : Stages kept) : Text → Logged (Outcome ρ) → Prop where
  | success {source rest : Text} {values : Values kept} {log : List LogEntry}
      (runs : Runs stages source values rest log) : Answers f stages source ⟨.success (f values) rest, log⟩
  | stop {source : Text} {stop : Stop} {log : List LogEntry} (breaks : Breaks stages source stop log) :
      Answers f stages source ⟨stop.outcome, log⟩

theorem success_or_stop {α : Type} (answer : Logged (Outcome α)) :
    (∃ value rest log, answer = ⟨.success value rest, log⟩) ∨
      ∃ (stop : Stop) (log : List LogEntry), answer = ⟨stop.outcome, log⟩ := by
  obtain ⟨outcome, log⟩ := answer
  cases outcome with
  | success value rest => exact .inl ⟨value, rest, log, rfl⟩
  | failure reason => exact .inr ⟨.failure reason, log, rfl⟩
  | fault reason => exact .inr ⟨.fault reason, log, rfl⟩

section Steps

variable {α β γ : Type} {source middle rest : Text} {stop : Stop} {log later : List LogEntry}

theorem stepThen_success {parser : Parser α} {next : α → Text → Logged (Outcome β)} {value : α}
    (here : parser.step source = ⟨.success value middle, log⟩) :
    parser.stepThen next source = ⟨(next value middle).value, log ++ (next value middle).log⟩ := by
  simp only [stepThen, here]
  rfl

/-- What stops a parser stops a sequence that starts with it, and nothing behind it runs. -/
theorem stepThen_stop {parser : Parser α} {next : α → Text → Logged (Outcome β)}
    (here : parser.step source = ⟨stop.outcome, log⟩) :
    parser.stepThen next source = ⟨stop.outcome, log⟩ := by
  have stopped : parser.stepThen next source = ⟨stop.outcome, log ++ []⟩ := by
    rw [stepThen, here]
    cases stop <;> rfl
  rwa [List.append_nil] at stopped

variable {f : α → β → γ} {first : Parser α} {second : Parser β} {left : α} {right : β}

theorem step_map2 (here : first.step source = ⟨.success left middle, log⟩)
    (there : second.step middle = ⟨.success right rest, later⟩) :
    (map2 f first second).step source = ⟨.success (f left right) rest, log ++ later⟩ := by
  refine (stepThen_success here).trans ?_
  rw [stepThen_success there]
  simp only [Logged.value_pure, Logged.log_pure, List.append_nil]

theorem step_map2_first (here : first.step source = ⟨stop.outcome, log⟩) :
    (map2 f first second).step source = ⟨stop.outcome, log⟩ :=
  stepThen_stop here

theorem step_map2_second (here : first.step source = ⟨.success left middle, log⟩)
    (there : second.step middle = ⟨stop.outcome, later⟩) :
    (map2 f first second).step source = ⟨stop.outcome, log ++ later⟩ := by
  refine (stepThen_success here).trans ?_
  rw [stepThen_stop there]

end Steps

/-- What stops the parser that stages are appended to stops them all. -/
theorem Stages.append_stop {stages : Stages kept} {start : Parser (Curried kept ρ)} {source : Text}
    {stop : Stop} {log : List LogEntry} (stopped : start.step source = ⟨stop.outcome, log⟩) :
    (stages.append start).step source = ⟨stop.outcome, log⟩ := by
  induction stages with
  | done => exact stopped
  | keep parser others inductionHypothesis => exact inductionHypothesis (step_map2_first stopped)
  | drop parser others inductionHypothesis => exact inductionHypothesis (step_map2_first stopped)

/-- A run goes on behind a parser that has read the function of its values. -/
theorem Runs.append {stages : Stages kept} {f : Values kept → ρ} {start : Parser (Curried kept ρ)}
    {source middle rest : Text} {values : Values kept} {log later : List LogEntry}
    (started : start.step source = ⟨.success (curry f) middle, log⟩)
    (runs : Runs stages middle values rest later) :
    (stages.append start).step source = ⟨.success (f values) rest, log ++ later⟩ := by
  -- In front of each stage the parser in front of it has read the function with the arguments that are known, so
  -- the function changes from stage to stage.
  induction runs generalizing log with
  | done middle =>
      rw [List.append_nil]
      exact started
  | keep here behind inductionHypothesis =>
      rw [← List.append_assoc, Stages.append]
      exact inductionHypothesis (f := fun others => f (_, others)) (step_map2 started here)
  | drop here behind inductionHypothesis =>
      rw [← List.append_assoc, Stages.append]
      exact inductionHypothesis (step_map2 started here)

theorem Breaks.append {stages : Stages kept} {f : Values kept → ρ} {start : Parser (Curried kept ρ)}
    {source middle : Text} {stop : Stop} {log later : List LogEntry}
    (started : start.step source = ⟨.success (curry f) middle, log⟩)
    (breaks : Breaks stages middle stop later) :
    (stages.append start).step source = ⟨stop.outcome, log ++ later⟩ := by
  induction breaks generalizing log with
  | keep others here =>
      rw [Stages.append]
      exact Stages.append_stop (step_map2_second started here)
  | drop others here =>
      rw [Stages.append]
      exact Stages.append_stop (step_map2_second started here)
  | behindKeep here behind inductionHypothesis =>
      rw [← List.append_assoc, Stages.append]
      exact inductionHypothesis (step_map2 started here)
  | behindDrop here behind inductionHypothesis =>
      rw [← List.append_assoc, Stages.append]
      exact inductionHypothesis (step_map2 started here)

/-- Stages that run in order have an answer. -/
theorem exists_answers (f : Values kept → ρ) (stages : Stages kept) (source : Text) :
    ∃ answer, Answers f stages source answer := by
  induction stages generalizing source with
  | done => exact ⟨_, .success (.done source)⟩
  | keep parser others inductionHypothesis =>
      rcases success_or_stop (parser.step source) with ⟨value, middle, log, here⟩ | ⟨stop, log, here⟩
      · obtain ⟨_, behind⟩ := inductionHypothesis (fun others => f (value, others)) middle
        cases behind with
        | success runs => exact ⟨_, .success (.keep here runs)⟩
        | stop breaks => exact ⟨_, .stop (.behindKeep here breaks)⟩
      · exact ⟨_, .stop (.keep others here)⟩
  | drop parser others inductionHypothesis =>
      rcases success_or_stop (parser.step source) with ⟨mark, middle, log, here⟩ | ⟨stop, log, here⟩
      · obtain ⟨_, behind⟩ := inductionHypothesis f middle
        cases behind with
        | success runs => exact ⟨_, .success (.drop here runs)⟩
        | stop breaks => exact ⟨_, .stop (.behindDrop here breaks)⟩
      · exact ⟨_, .stop (.drop others here)⟩

/-- An answer of the stages is what the pipeline gives. -/
theorem Answers.step_pipeline {f : Values kept → ρ} {stages : Stages kept} {source : Text}
    {answer : Logged (Outcome ρ)} (answers : Answers f stages source answer) :
    (pipeline f stages).step source = answer := by
  have started : (succeed (curry f)).step source = ⟨.success (curry f) source, []⟩ := rfl
  cases answers with
  | success runs => exact runs.append started
  | stop breaks => exact breaks.append started

/-- A pipeline gives each time what its stages give in order, up to the first one that does not succeed. -/
theorem runs_pipeline_iff (f : Values kept → ρ) (stages : Stages kept) (sources : List Text)
    (answers : List (Logged (Outcome ρ))) :
    sources.map (pipeline f stages).step = answers ↔ List.Forall₂ (Answers f stages) sources answers := by
  have once (source : Text) (answer : Logged (Outcome ρ)) :
      (pipeline f stages).step source = answer ↔ Answers f stages source answer := by
    constructor
    · rintro rfl
      obtain ⟨answer, answers⟩ := exists_answers f stages source
      rw [answers.step_pipeline]
      exact answers
    · exact Answers.step_pipeline
  have same : (fun source answer => (pipeline f stages).step source = answer) = Answers f stages := by
    funext source answer
    exact propext (once source answer)
  rw [← List.forall₂_eq_eq_eq, List.forall₂_map_left_iff, same]

/-- A pipeline of a grammar, whose function takes four arguments. -/
example : unicodeEscape =
    pipeline (fun digits : Values [CodePoint, CodePoint, CodePoint, CodePoint] =>
        [CodePoint.ofNat (hexadecimalValue [digits.1, digits.2.1, digits.2.2.1, digits.2.2.2.1])])
      (.drop (string "u") <| .keep hexadecimalDigit <| .keep hexadecimalDigit <| .keep hexadecimalDigit <|
        .keep hexadecimalDigit .done) := rfl

end ParserAlgebra.Parser
