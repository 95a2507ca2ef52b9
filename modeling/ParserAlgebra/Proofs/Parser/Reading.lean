import ParserAlgebra.Parser.Character
import ParserAlgebra.Parser.Recursion
import ParserAlgebra.Parser.Repetition
import ParserAlgebra.Proofs.Language
import ParserAlgebra.Proofs.Text.Run

namespace ParserAlgebra.Parser

open ParserAlgebra.Language Text

variable {α β γ σ : Type}

/-- A parser reads a language if each success consumes a text of the language. -/
def Reads (parser : Parser α) (language : Language α) : Prop :=
  ∀ ⦃source value rest⦄, parser.parse source = .success value rest →
    ∃ text, source = text ++ rest ∧ language text value

namespace Reads

theorem mono {parser : Parser α} {small large : Language α} (reads : Reads parser small)
    (within : ∀ {text value}, small text value → large text value) : Reads parser large := by
  intro source value rest parsed
  obtain ⟨text, rfl, member⟩ := reads parsed
  exact ⟨text, rfl, within member⟩

theorem suffix {parser : Parser α} {language : Language α} (reads : Reads parser language)
    {source rest : Text} {value : α} (parsed : parser.parse source = .success value rest) :
    rest <:+ source := by
  obtain ⟨text, rfl, -⟩ := reads parsed
  exact List.suffix_append text rest

theorem anyPoint : Reads anyPoint fun text point => text = [point] := by
  intro source point rest parsed
  cases source with
  | nil => cases parsed
  | cons head tail =>
      cases parsed
      exact ⟨[point], rfl, rfl⟩

theorem endOfFile : Reads endOfFile fun text _ => text = [] := by
  intro source value rest parsed
  cases source with
  | nil =>
      cases parsed
      exact ⟨[], rfl, rfl⟩
  | cons head tail => cases parsed

theorem string (literal : Text) : Reads (string literal) (Literal literal) := by
  intro source value rest parsed
  rw [parse_string] at parsed
  split at parsed
  · rename_i starts
    cases parsed
    obtain ⟨tail, rfl⟩ := List.isPrefixOf_iff_prefix.1 starts
    exact ⟨literal, by simp, rfl, rfl⟩
  · cases parsed

theorem takeIf (test : CodePoint → Bool) :
    Reads (takeIf test) fun text point => text = [point] ∧ test point = true := by
  intro source point rest parsed
  cases source with
  | nil => cases parsed
  | cons head tail =>
      simp only [Parser.takeIf, parse_ofOutcome] at parsed
      split at parsed
      · rename_i accepted
        cases parsed
        exact ⟨[point], rfl, rfl, accepted⟩
      · cases parsed

theorem takeWhile (test : CodePoint → Bool) :
    Reads (takeWhile test) fun text value => text = value ∧ Run test value := by
  intro source value rest parsed
  cases parsed
  exact ⟨_, List.takeWhile_append_dropWhile.symm, rfl, run_takeWhile test source⟩

theorem succeed (value : α) : Reads (succeed value) fun text result => text = [] ∧ result = value := by
  intro source result rest parsed
  cases parsed
  exact ⟨[], rfl, rfl, rfl⟩

theorem fromOption (value : Option α) (missing : Failure) :
    Reads (fromOption value missing) fun text result => text = [] ∧ value = some result := by
  intro source result rest parsed
  cases value with
  | none => cases parsed
  | some value =>
      cases parsed
      exact ⟨[], rfl, rfl, rfl⟩

theorem fromResult (result : Except Failure α) :
    Reads (fromResult result) fun text value => text = [] ∧ result = .ok value := by
  intro source value rest parsed
  cases result with
  | error reason => cases parsed
  | ok result =>
      cases parsed
      exact ⟨[], rfl, rfl, rfl⟩

theorem fromVerdict (verdict : Logged (Verdict α)) :
    Reads (fromVerdict verdict) fun text value => text = [] ∧ verdict.value = .ok value := by
  intro source value rest parsed
  rw [parse_fromVerdict] at parsed
  split at parsed
  · rename_i ok
    cases parsed
    exact ⟨[], rfl, rfl, ok⟩
  · cases parsed
  · cases parsed

theorem abort (fault : Fault) (language : Language α) : Reads (abort fault) language := by
  intro source value rest parsed
  cases parsed

theorem rename {parser : Parser α} {language : Language α} (name : Option Text)
    (reads : Reads parser language) : Reads (parser.rename name) language :=
  reads

theorem transform {parser : Parser α} {language : Language α} (f : α → β)
    (reads : Reads parser language) :
    Reads (parser.transform f) fun text result => ∃ value, language text value ∧ result = f value := by
  intro source result rest parsed
  rw [parse_transform, Outcome.andThen_eq_success] at parsed
  obtain ⟨value, middle, read, finish⟩ := parsed
  cases finish
  obtain ⟨text, rfl, member⟩ := reads read
  exact ⟨text, rfl, value, member, rfl⟩

theorem map {parser : Parser α} {language : Language α} (f : α → β)
    (reads : Reads parser language) :
    Reads (parser.map f) fun text result => ∃ value, language text value ∧ result = f value :=
  (reads.transform f).rename _

theorem raising {parser : Parser (Except Fault α)} {language : Language (Except Fault α)}
    (reads : Reads parser language) : Reads parser.raising fun text value => language text (.ok value) := by
  intro source value rest parsed
  rw [parse_raising, Outcome.andThen_eq_success] at parsed
  obtain ⟨result, middle, read, finish⟩ := parsed
  cases result with
  | ok result =>
      cases finish
      exact reads read
  | error fault => cases finish

theorem andThen {parser : Parser α} {next : α → Parser β} {first : Language α}
    {second : α → Language β} (reads : Reads parser first)
    (readsNext : ∀ value, Reads (next value) (second value)) :
    Reads (parser.andThen next) fun text result =>
      ∃ left right value, text = left ++ right ∧ first left value ∧ second value right result := by
  intro source result rest parsed
  rw [parse_andThen, Outcome.andThen_eq_success] at parsed
  obtain ⟨value, middle, read, finish⟩ := parsed
  obtain ⟨left, rfl, here⟩ := reads read
  obtain ⟨right, rfl, there⟩ := readsNext value finish
  exact ⟨left ++ right, by simp, left, right, value, rfl, here, there⟩

theorem map2 {first : Parser α} {second : Parser β} {left : Language α} {right : Language β}
    (f : α → β → γ) (readsFirst : Reads first left) (readsSecond : Reads second right) :
    Reads (map2 f first second) fun text result =>
      ∃ start finish a b, text = start ++ finish ∧ left start a ∧ right finish b ∧ result = f a b := by
  intro source result rest parsed
  rw [parse_map2, Outcome.andThen_eq_success] at parsed
  obtain ⟨a, middle, read, parsed⟩ := parsed
  rw [Outcome.andThen_eq_success] at parsed
  obtain ⟨b, final, readNext, done⟩ := parsed
  cases done
  obtain ⟨start, rfl, here⟩ := readsFirst read
  obtain ⟨finish, rfl, there⟩ := readsSecond readNext
  exact ⟨start ++ finish, by simp, start, finish, a, b, rfl, here, there, rfl⟩

/-- The rest of a two part sequence is what the second part leaves. -/
theorem drop {keeper : Parser α} {ignored : Parser σ} {left : Language α} {right : Language σ}
    (readsKeeper : Reads keeper left) (readsIgnored : Reads ignored right) :
    Reads (keeper.drop ignored) fun text value =>
      ∃ start finish mark, text = start ++ finish ∧ left start value ∧ right finish mark := by
  refine (readsKeeper.map2 _ readsIgnored).mono ?_
  intro text value reading
  obtain ⟨start, finish, _, mark, rfl, here, there, rfl⟩ := reading
  exact ⟨start, finish, mark, rfl, here, there⟩

theorem oneOf {alternatives : List (Parser α)} {language : Language α}
    (each : ∀ alternative ∈ alternatives, Reads alternative language) :
    Reads (oneOf alternatives) language := by
  intro source value rest parsed
  induction alternatives with
  | nil => cases parsed
  | cons first others inductionHypothesis =>
      cases others with
      | nil => exact each first (by simp) parsed
      | cons second others =>
          rw [parse_oneOf_cons_cons, Outcome.orElse_eq_success] at parsed
          rcases parsed with here | ⟨reason, -, there⟩
          · exact each first (by simp) here
          · exact inductionHypothesis (fun alternative member => each alternative (by simp [member])) there

theorem literals (literals : List Text) :
    Reads (Parser.oneOf (literals.map Parser.string)) (Chosen literals) := by
  refine oneOf fun alternative member => ?_
  obtain ⟨literal, known, rfl⟩ := List.mem_map.1 member
  refine (string literal).mono ?_
  intro text value reading
  obtain ⟨rfl, rfl⟩ := reading
  exact ⟨rfl, known⟩

theorem optional {parser : Parser α} {language : Language α} (reads : Reads parser language) :
    Reads parser.optional (Optional language) := by
  intro source value? rest parsed
  rw [parse_optional, Outcome.orElse_eq_success] at parsed
  rcases parsed with here | ⟨reason, -, there⟩
  · rw [Outcome.andThen_eq_success] at here
    obtain ⟨value, middle, read, done⟩ := here
    cases done
    obtain ⟨text, rfl, member⟩ := reads read
    exact ⟨text, rfl, .present member⟩
  · cases there
    exact ⟨[], rfl, .absent⟩

/-- A repetition that stops after a unit without progress gives nothing back, since such a unit
consumed nothing. -/
theorem many {element : Parser α} {separator : Parser σ} {language : Language α}
    {between : Language σ} (readsElement : Reads element language)
    (readsSeparator : Reads separator between) :
    Reads (many element separator) (Repeated language between) := by
  intro source values rest parsed
  induction bound : source.length using Nat.strongRecOn generalizing source values with
  | ind bound inductionHypothesis =>
      subst bound
      rw [parse_many] at parsed
      split at parsed
      · rename_i value middle unit
        obtain ⟨_, rfl, text, mark, ignored, rfl, here, there⟩ :=
          readsElement.drop readsSeparator unit
        split at parsed
        · rename_i shorter
          rw [Outcome.andThen_eq_success] at parsed
          obtain ⟨others, final, next, done⟩ := parsed
          cases done
          obtain ⟨remaining, rfl, repeated⟩ := inductionHypothesis _ shorter next rfl
          exact ⟨text ++ mark ++ remaining, by simp, .cons here there repeated⟩
        · rename_i stuck
          cases parsed
          have length : text.length = 0 := by
            simp only [List.length_append] at stuck
            omega
          cases List.length_eq_zero_iff.1 length
          exact ⟨[], rfl, .last here⟩
      · split at parsed
        · rename_i value middle only
          cases parsed
          obtain ⟨text, rfl, here⟩ := readsElement only
          exact ⟨text, rfl, .last here⟩
        · cases parsed
          exact ⟨[], rfl, .nil⟩
        · cases parsed
      · cases parsed

theorem takeIfAndWhile (test : CodePoint → Bool) :
    Reads (takeIfAndWhile test) fun text value => text = value ∧ value ≠ [] ∧ Run test value := by
  refine (((takeIf test).map2 _ (takeWhile test)).rename _).mono ?_
  intro text value reading
  obtain ⟨_, _, point, points, rfl, ⟨rfl, accepted⟩, ⟨rfl, run⟩, rfl⟩ := reading
  simp [accepted, run]

/-- A parser that runs other parsers, one for each input, reads what they read. -/
theorem delayed {unfold : Text → Parser α} {language : Language α}
    (each : ∀ source, Reads (unfold source) language) :
    Reads (delayed fun source => (unfold source).step source) language := by
  intro source value rest parsed
  exact each source parsed

theorem below {parser : Parser α} {language : Language α} {bound : Nat}
    (shorter : ∀ {source value rest}, source.length < bound →
      parser.parse source = .success value rest → ∃ text, source = text ++ rest ∧ language text value) :
    Reads (parser.below bound) language := by
  intro source value rest parsed
  rw [parse_below] at parsed
  split at parsed
  · rename_i inside
    exact shorter inside parsed
  · cases parsed

/-- A recursive parser reads a language if its body does so for every parser that reads the
language. -/
theorem fix {body : Parser α → Parser α} {language : Language α}
    (step : ∀ {parser}, Reads parser language → Reads (body parser) language) :
    Reads (fix body) language := by
  intro source value rest parsed
  induction bound : source.length using Nat.strongRecOn generalizing source value rest with
  | ind bound inductionHypothesis =>
      subst bound
      rw [parse_fix] at parsed
      refine step (below ?_) parsed
      intro shorterSource shorterValue shorterRest shorter read
      exact inductionHypothesis _ shorter read rfl

end Reads

end ParserAlgebra.Parser
