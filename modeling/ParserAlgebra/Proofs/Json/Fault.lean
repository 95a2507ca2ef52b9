import ParserAlgebra.Proofs.Grammar.Composition
import ParserAlgebra.Proofs.Json.Recognition
import ParserAlgebra.Proofs.Number.Decimal
import ParserAlgebra.Proofs.Parser.Fault

namespace ParserAlgebra.Json

open ParserAlgebra.Language ParserAlgebra.Parser Text

variable {bound : Nat} {element : Parser Json} {source text rest : Text} {fault : Fault}

/-- A number with an exponent whose parts make no number. -/
inductive RaisingNumber : Text → Fault → Prop where
  | number {sign body scale : Text} {sign? : Option Text} {mantissa : Number} {exponent : Int} {fault : Fault}
      (signed : Optional (Literal "-") sign sign?) (here : MantissaText body mantissa)
      (scaled : ExponentText scale exponent) (raised : makeNumber sign? mantissa (some exponent) = .error fault) :
      RaisingNumber (sign ++ body ++ scale) fault

/-- The reading of a value gets to a number that raises a fault, behind open brackets with finished items in them. -/
inductive Raising : Text → Fault → Prop where
  | number {text rest : Text} {fault : Fault} (numeral : RaisingNumber text fault) (stops : Stops isDigit rest) :
      Raising (text ++ rest) fault
  | element {front blank rest : Text} {elements : List Json} {fault : Fault}
      (before : Sequence (Ended (Padded isWhitespace Value)) front elements) (left : Run isWhitespace blank)
      (inner : Raising rest fault) : Raising (("[" : Text) ++ (front ++ (blank ++ rest))) fault
  | member {front name blank rest key : Text} {members : List (Text × Json)} {fault : Fault}
      (before : Sequence (Ended (Member Value)) front members) (named : Padded isWhitespace StringText name key)
      (left : Run isWhitespace blank) (inner : Raising rest fault) :
      Raising (("\x7b" : Text) ++ (front ++ (name ++ ((":" : Text) ++ (blank ++ rest))))) fault

/-- A number that cannot be made has an exponent, and the exponent or the number is too large for a decimal. -/
theorem makeNumber_eq_error {sign? : Option Text} {mantissa : Number} {exponent? : Option Int}
    (raised : makeNumber sign? mantissa exponent? = .error fault) :
    (∃ exponent, exponent? = some exponent) ∧ (fault = .decimalInvalid ∨ fault = .decimalOverflow) := by
  cases exponent? with
  | none => cases raised
  | some exponent =>
      refine ⟨⟨exponent, rfl⟩, ?_⟩
      simp only [makeNumber, scaleNumber] at raised
      split at raised
      · cases raised
      · split at raised
        · rename_i scaled
          cases raised
          exact (Decimal.scale_eq_error_iff.1 scaled).imp And.left And.left
        · cases raised

theorem RaisingNumber.apart {other : CodePoint → Bool} (member : RaisingNumber text fault)
    (disjoint : ∀ point ∈ CharacterClass.decimalDigits, other point = false)
    (outside : Apart other ("-" : Text)) : Apart other text := by
  obtain ⟨signed, here, scaled, raised⟩ := member
  exact (signed_apart signed here disjoint outside).append _

theorem Raising.stops (raising : Raising source fault) : Stops isWhitespace source := by
  cases raising with
  | number numeral stops => exact (numeral.apart (by decide) (by decide)).stops_append _
  | element before left inner => exact Stops.append (by decide) (by decide)
  | member before named left inner => exact Stops.append (by decide) (by decide)

/-- Only decimals raise faults here. -/
theorem Raising.decimal (raising : Raising source fault) :
    fault = .decimalInvalid ∨ fault = .decimalOverflow := by
  induction raising with
  | number numeral stops =>
      obtain ⟨signed, here, scaled, raised⟩ := numeral
      exact (makeNumber_eq_error raised).2
  | element _ _ _ inductionHypothesis => exact inductionHypothesis
  | member _ _ _ _ inductionHypothesis => exact inductionHypothesis

theorem steady_mantissaPart : Steady mantissaPart := by
  refine .oneOf fun alternative member => ?_
  simp only [List.mem_cons, List.not_mem_nil, or_false] at member
  rcases member with rfl | rfl
  · exact Steady.realNumber.transform _
  · exact Steady.integerNumber.transform _

theorem steady_exponentPart : Steady exponentPart :=
  (((Steady.succeed _).map2 _ (.literals ["e", "E"])).map2 _ (Steady.literals ["+", "-"]).optional).map2 _
    .integerNumber

/-- An exponent takes all the digits there are. -/
theorem stops_of_exponentPart {exponent : Int} (parsed : exponentPart.parse source = .success exponent rest) :
    Stops isDigit rest := by
  simp only [exponentPart, parse_keep, parse_drop, parse_succeed, Outcome.andThen_success,
    Outcome.andThen_assoc, Outcome.andThen_eq_success] at parsed
  obtain ⟨_, _, _, _, _, _, value, _, readNumber, done⟩ := parsed
  cases done
  exact stops_of_integerNumber readNumber

/-- A number raises a fault only after all its parts were read. -/
theorem raisingNumber_of_numberParser (raised : numberParser.parse source = .fault fault) :
    ∃ text rest, source = text ++ rest ∧ RaisingNumber text fault ∧ Stops isDigit rest := by
  have steady : Steady numberParts :=
    (((Steady.succeed _).map2 _ (Steady.string _).optional).map2 _ steady_mantissaPart).map2 _
      steady_exponentPart.optional
  have parts : numberParser.parse source = _ := parse_raising numberParts source
  rw [parts, Outcome.andThen_eq_fault] at raised
  rcases raised with raised | ⟨result, rest, parsed, raised⟩
  · exact (steady raised).elim
  · cases result with
    | ok value => cases raised
    | error reason =>
        cases raised
        obtain ⟨sign, body, scale, sign?, mantissa, exponent?, rfl, signed, here, scaled, readExponent, made⟩ :=
          numberParts_eq_success parsed
        obtain ⟨⟨exponent, rfl⟩, -⟩ := makeNumber_eq_error made
        cases scaled with
        | present part =>
            have stops := stops_of_exponentPart (parse_optional_eq_some.1 readExponent)
            exact ⟨_, rest, rfl, .number signed here part made, stops⟩

theorem raising_of_numberParser (raised : numberParser.parse source = .fault fault) : Raising source fault := by
  obtain ⟨text, rest, rfl, numeral, stops⟩ := raisingNumber_of_numberParser raised
  exact .number numeral stops

/-- A member that raises a fault has read its key. -/
theorem memberParser_eq_fault (raised : (memberParser element).parse source = .fault fault) :
    ∃ name rest key, source = name ++ ((":" : Text) ++ rest) ∧ Padded isWhitespace StringText name key ∧
      (token element).parse rest = .fault fault := by
  have steady : Steady memberHead :=
    ((((Steady.succeed _).map2 _ .whitespace).map2 _ steady_standardString).map2 _ .whitespace).map2 _
      (.string ":")
  rw [parse_memberParser, Outcome.andThen_eq_fault] at raised
  rcases raised with raised | ⟨build, rest, parsed, raised⟩
  · exact (steady raised).elim
  · rw [Outcome.andThen_eq_fault] at raised
    rcases raised with inner | ⟨_, _, _, done⟩
    · obtain ⟨name, key, rfl, named, -⟩ := memberHead_eq_success parsed
      exact ⟨name, rest, key, rfl, named, inner⟩
    · cases done

/-- A value raises a fault only if the reading gets to a number that does. -/
theorem raising_of_valueBody (reads : Reads element Value)
    (inner : ∀ {rest}, rest.length < source.length → element.parse rest = .fault fault → Raising rest fault)
    (raised : (valueBody element).parse source = .fault fault) : Raising source fault := by
  obtain ⟨alternative, member, raised⟩ := oneOf_eq_fault raised
  simp only [List.mem_cons, List.not_mem_nil, or_false] at member
  rcases member with rfl | rfl | rfl | rfl | rfl | rfl | rfl
  · obtain ⟨_, rfl, behind⟩ := bracketed_eq_fault.1 (transform_eq_fault.1 raised)
    obtain ⟨front, _, members, rfl, before, there⟩ := commas_eq_fault (reads_memberParser reads) behind
    obtain ⟨name, rest, key, rfl, named, there⟩ := memberParser_eq_fault there
    have opening : 0 < ("\x7b" : Text).length := by decide
    have trimmed := (List.dropWhile_suffix isWhitespace (l := rest)).length_le
    have raising := inner (by simp only [List.length_append]; omega) (token_eq_fault.1 there)
    rw [← List.takeWhile_append_dropWhile (p := isWhitespace) (l := rest)]
    exact .member before named (run_takeWhile isWhitespace rest) raising
  · obtain ⟨_, rfl, behind⟩ := bracketed_eq_fault.1 (transform_eq_fault.1 raised)
    obtain ⟨front, rest, elements, rfl, before, there⟩ := commas_eq_fault (reads_token reads) behind
    have opening : 0 < ("[" : Text).length := by decide
    have trimmed := (List.dropWhile_suffix isWhitespace (l := rest)).length_le
    have raising := inner (by simp only [List.length_append]; omega) (token_eq_fault.1 there)
    rw [← List.takeWhile_append_dropWhile (p := isWhitespace) (l := rest)]
    exact .element before (run_takeWhile isWhitespace rest) raising
  · exact (steady_standardString (transform_eq_fault.1 raised)).elim
  · exact raising_of_numberParser (transform_eq_fault.1 raised)
  all_goals exact (((Steady.string _).transform _).rename _ raised).elim

/-- The nesting of values is followed down to the number, on inputs that get shorter. -/
theorem raising_of_valueParser (raised : valueParser.parse source = .fault fault) : Raising source fault := by
  induction bound : source.length using Nat.strongRecOn generalizing source with
  | ind bound inductionHypothesis =>
      subst bound
      rw [valueParser, parse_fix] at raised
      have reads : Reads ((fix valueBody).below source.length) Value :=
        .below fun _ parsed => reads_valueParser parsed
      refine raising_of_valueBody reads ?_ raised
      intro rest shorter behind
      rw [parse_below, if_pos shorter] at behind
      exact inductionHypothesis _ shorter behind rfl

/-- A number that raises a fault is read up to the end of its exponent. -/
theorem parse_numberParser_raising (numeral : RaisingNumber text fault) (stops : Stops isDigit rest) :
    numberParser.parse (text ++ rest) = .fault fault := by
  obtain ⟨signed, here, scaled, raised⟩ := numeral
  have readExponent := parse_optional_eq_some.2 (parse_exponentPart_append scaled stops)
  rw [parse_numberParser_parts signed here (scaled.stops rest) readExponent, raised]

theorem accepts_below (bound : Nat) :
    AcceptsBelow bound ((fix valueBody).below bound) Value (Stops isNumberPart) := by
  intro text value rest inside member follows
  rw [parse_below, if_pos inside]
  exact accepts_valueParser bound inside member follows

theorem parse_token_raising {blank : Text} (left : Run isWhitespace blank) (raising : Raising rest fault)
    (raised : valueParser.parse rest = .fault fault) (shorter : rest.length < bound) :
    (token ((fix valueBody).below bound)).parse (blank ++ rest) = .fault fault := by
  rw [token_eq_fault, left.dropWhile_append raising.stops, parse_below, if_pos shorter]
  exact raised

theorem follows_comma (rest : Text) : Stops isNumberPart (("," : Text) ++ rest) :=
  Stops.append (by decide) (by decide)

/-- The number that raises a fault is reached through all the brackets in front of it. -/
theorem parse_valueParser_raising (raising : Raising source fault) : valueParser.parse source = .fault fault := by
  induction raising with
  | @number text rest fault numeral stops =>
      have apart : Apart ("\x7b[\"" : Text).contains text := numeral.apart (by decide) (by decide)
      rw [valueParser, parse_fix, parse_valueBody_bare (apart.stops_append rest)]
      apply parse_oneOf_fault
      exact transform_eq_fault.2 (parse_numberParser_raising numeral stops)
  | @element front blank rest elements fault before left inner inductionHypothesis =>
      have opening : 0 < ("[" : Text).length := by decide
      rw [valueParser, parse_fix]
      generalize bound : (("[" : Text) ++ (front ++ (blank ++ rest))).length = limit
      simp only [List.length_append] at bound
      have here : (token ((fix valueBody).below limit)).parse (blank ++ rest) = .fault fault :=
        parse_token_raising left inner inductionHypothesis (by omega)
      have noObject : Refuses (string "\x7b") (("[" : Text) ++ (front ++ (blank ++ rest))) := ⟨_, rfl⟩
      rw [valueBody, (refuses_objectParser _ noObject).parse_oneOf]
      apply parse_oneOf_fault
      refine transform_eq_fault.2 (bracketed_eq_fault.2 ⟨_, rfl, ?_⟩)
      exact parse_many_ended_fault (accepts_element (accepts_below limit)) follows_comma before
        (by simp only [List.length_append]; omega) here
  | @member front name blank rest key members fault before named left inner inductionHypothesis =>
      have opening : 0 < ("\x7b" : Text).length := by decide
      rw [valueParser, parse_fix]
      generalize bound : (("\x7b" : Text) ++ (front ++ (name ++ ((":" : Text) ++ (blank ++ rest))))).length = limit
      simp only [List.length_append] at bound
      have here : (token ((fix valueBody).below limit)).parse (blank ++ rest) = .fault fault :=
        parse_token_raising left inner inductionHypothesis (by omega)
      have item : (memberParser ((fix valueBody).below limit)).parse (name ++ ((":" : Text) ++ (blank ++ rest))) =
          .fault fault := by
        rw [parse_memberParser, parse_memberHead_append named, Outcome.andThen_success, here]
        rfl
      apply parse_oneOf_fault
      refine transform_eq_fault.2 (bracketed_eq_fault.2 ⟨_, rfl, ?_⟩)
      exact parse_many_ended_fault (accepts_memberParser (accepts_below limit)) follows_comma before
        (by simp only [List.length_append]; omega) item

/-- A run of the decoder raises a fault exactly if the reading gets to a number that does. -/
theorem decode_eq_fault_iff : (decode source).value = .fault fault ↔
    Raising (source.dropWhile isWhitespace) fault := by
  have run : (decode source).value = (run source document).value := rfl
  rw [run, value_run_eq_fault composed_document, document, parse_drop, Outcome.andThen_eq_fault]
  constructor
  · rintro (raised | ⟨_, _, -, raised⟩)
    · exact raising_of_valueParser (token_eq_fault.1 raised)
    · rw [Outcome.andThen_eq_fault] at raised
      rcases raised with ended | ⟨_, _, -, done⟩
      · exact (Steady.endOfFile ended).elim
      · cases done
  · intro raising
    exact .inl (token_eq_fault.2 (parse_valueParser_raising raising))

end ParserAlgebra.Json
