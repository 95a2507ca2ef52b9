import ParserAlgebra.Grammar.Json
import ParserAlgebra.Proofs.Parser.Numeral

namespace ParserAlgebra.Json

open ParserAlgebra.Language ParserAlgebra.Parser Text

variable {text rest : Text}

/-- A mantissa is a double if it has a fraction, and an integer otherwise. -/
inductive MantissaText : Text → Number → Prop where
  | real {text : Text} {value : Double} (numeral : RealText text value) : MantissaText text (.real value)
  | integer {text : Text} {value : Nat} (numeral : IntegerText text value) :
      MantissaText text (.integer value)

/-- An exponent is a mark, an optional sign and an integer. -/
inductive ExponentText : Text → Int → Prop where
  | exponent {mark sign digits : Text} {sign? : Option Text} {value : Nat}
      (known : mark ∈ (["e", "E"] : List Text)) (signed : Optional (Chosen ["+", "-"]) sign sign?)
      (numeral : IntegerText digits value) :
      ExponentText (mark ++ sign ++ digits) (if sign? = some "-" then -(value : Int) else value)

/-- A number is an optional minus sign, a mantissa and an optional exponent of which a number can be made. -/
inductive NumberText : Text → Number → Prop where
  | number {sign body scale : Text} {sign? : Option Text} {mantissa number : Number} {exponent? : Option Int}
      (signed : Optional (Literal "-") sign sign?) (here : MantissaText body mantissa)
      (scaled : Optional ExponentText scale exponent?)
      (made : makeNumber sign? mantissa exponent? = .ok number) :
      NumberText (sign ++ body ++ scale) number

theorem reads_mantissaPart : Reads mantissaPart MantissaText := by
  refine Reads.oneOf fun alternative member => ?_
  simp only [List.mem_cons, List.not_mem_nil, or_false] at member
  rcases member with rfl | rfl
  · refine (reads_realNumber.transform _).mono ?_
    intro text value reading
    obtain ⟨_, numeral, rfl⟩ := reading
    exact .real numeral
  · refine (reads_integerNumber.transform _).mono ?_
    intro text value reading
    obtain ⟨_, numeral, rfl⟩ := reading
    exact .integer numeral

theorem reads_exponentPart : Reads exponentPart ExponentText := by
  intro source value rest parsed
  simp only [exponentPart, parse_keep, parse_drop, parse_succeed, Outcome.andThen_success,
    Outcome.andThen_assoc, Outcome.andThen_eq_success] at parsed
  obtain ⟨_, _, readMark, sign?, _, readSign, number, _, readNumber, done⟩ := parsed
  cases done
  obtain ⟨mark, rfl, rfl, known⟩ := Reads.literals ["e", "E"] readMark
  obtain ⟨sign, rfl, signed⟩ := (Reads.literals ["+", "-"]).optional readSign
  obtain ⟨digits, rfl, numeral⟩ := reads_integerNumber readNumber
  exact ⟨_, by simp, .exponent known signed numeral⟩

/-- This parser reads the parts of a number and puts them together. -/
def numberParts : Parser (Except Fault Number) :=
  (((succeed makeNumber).keep (string "-").optional).keep mantissaPart).keep exponentPart.optional

/-- The parts of a number are a sign, a mantissa and an exponent. -/
theorem numberParts_eq_success {source : Text} {result : Except Fault Number}
    (parsed : numberParts.parse source = .success result rest) :
    ∃ sign body scale sign? mantissa exponent?, source = sign ++ body ++ scale ++ rest ∧
      Optional (Literal "-") sign sign? ∧ MantissaText body mantissa ∧ Optional ExponentText scale exponent? ∧
      exponentPart.optional.parse (scale ++ rest) = .success exponent? rest ∧
      makeNumber sign? mantissa exponent? = result := by
  simp only [numberParts, parse_keep, parse_succeed, Outcome.andThen_success, Outcome.andThen_assoc,
    Outcome.andThen_eq_success] at parsed
  obtain ⟨sign?, _, readSign, mantissa, _, readMantissa, exponent?, _, readExponent, done⟩ := parsed
  cases done
  obtain ⟨sign, rfl, signed⟩ := (Reads.string "-").optional readSign
  obtain ⟨body, rfl, here⟩ := reads_mantissaPart readMantissa
  obtain ⟨scale, rfl, scaled⟩ := reads_exponentPart.optional readExponent
  exact ⟨sign, body, scale, sign?, mantissa, exponent?, by simp, signed, here, scaled, readExponent, rfl⟩

theorem reads_numberParser : Reads numberParser NumberText := by
  have parts : Reads numberParts fun text result => ∀ number, result = .ok number → NumberText text number := by
    intro source result rest parsed
    obtain ⟨sign, body, scale, sign?, mantissa, exponent?, rfl, signed, here, scaled, -, rfl⟩ :=
      numberParts_eq_success parsed
    exact ⟨sign ++ body ++ scale, rfl, fun number made => .number signed here scaled made⟩
  refine parts.raising.mono ?_
  intro text number member
  exact member number rfl

/-- This test accepts the code points that go on with a number. -/
def isNumberPart (point : CodePoint) : Bool :=
  isNumeralPart point || ("eE" : Text).contains point

theorem stops_numeral (stops : Stops isNumberPart rest) : Stops isNumeralPart rest :=
  stops.of_imp fun point part => by simp [isNumberPart, part]

/-- A mantissa begins with a digit. -/
theorem MantissaText.apart {mantissa : Number} {other : CodePoint → Bool}
    (member : MantissaText text mantissa)
    (disjoint : ∀ point ∈ CharacterClass.decimalDigits, other point = false) : Apart other text := by
  cases member with
  | real numeral =>
      obtain ⟨left, -⟩ := numeral
      exact ((left.apart disjoint).append _).append _
  | integer numeral =>
      obtain ⟨numeral, -⟩ := numeral
      exact numeral.apart disjoint

/-- A mantissa behind an optional minus sign begins with a digit or the sign. -/
theorem signed_apart {sign : Text} {sign? : Option Text} {mantissa : Number} {other : CodePoint → Bool}
    (signed : Optional (Literal "-") sign sign?) (here : MantissaText text mantissa)
    (disjoint : ∀ point ∈ CharacterClass.decimalDigits, other point = false)
    (outside : Apart other ("-" : Text)) : Apart other (sign ++ text) := by
  cases signed with
  | absent => exact here.apart disjoint
  | present minus =>
      obtain ⟨rfl, -⟩ := minus
      exact outside.append _

theorem NumberText.apart {number : Number} {other : CodePoint → Bool} (member : NumberText text number)
    (disjoint : ∀ point ∈ CharacterClass.decimalDigits, other point = false)
    (outside : Apart other ("-" : Text)) : Apart other text := by
  obtain ⟨signed, here, scaled, made⟩ := member
  exact (signed_apart signed here disjoint outside).append _

theorem parse_mantissaPart_append {mantissa : Number} (member : MantissaText text mantissa)
    (stops : Stops isNumeralPart rest) : mantissaPart.parse (text ++ rest) = .success mantissa rest := by
  cases member with
  | real numeral => exact parse_oneOf_real _ _ numeral stops.digit
  | integer numeral => exact parse_oneOf_integer _ _ _ numeral stops.digit (noFraction_of_stops stops)

theorem refuses_sign (stops : Stops ("+-" : Text).contains rest) :
    Refuses (oneOf [string "+", string "-"]) rest :=
  show Refuses (oneOf ((["+", "-"] : List Text).map string)) rest from refuses_literals (by decide) stops

theorem parse_exponentSign {sign : Text} {sign? : Option Text}
    (signed : Optional (Chosen ["+", "-"]) sign sign?) (stops : Stops ("+-" : Text).contains rest) :
    (oneOf [string "+", string "-"]).optional.parse (sign ++ rest) = .success sign? rest := by
  refine parse_optional_append ?_ (refuses_sign stops) signed
  intro text value reading
  obtain ⟨rfl, known⟩ := reading
  simp only [List.mem_cons, List.not_mem_nil, or_false] at known
  rcases known with rfl | rfl <;> rfl

theorem parse_exponentMark {mark : Text} (known : mark ∈ (["e", "E"] : List Text)) (rest : Text) :
    (oneOf [string "e", string "E"]).parse (mark ++ rest) = .success mark rest := by
  simp only [List.mem_cons, List.not_mem_nil, or_false] at known
  rcases known with rfl | rfl <;> rfl

/-- An exponent with its mark and its sign reads an integer off the digits behind them. -/
theorem parse_exponentPart_digits {mark sign digits : Text} {sign? : Option Text}
    (known : mark ∈ (["e", "E"] : List Text)) (signed : Optional (Chosen ["+", "-"]) sign sign?)
    (numeral : Numeral digits) (rest : Text) :
    exponentPart.parse (mark ++ sign ++ digits ++ rest) =
      (integerNumber.parse (digits ++ rest)).andThen fun value rest =>
        .success (if sign? = some "-" then -(value : Int) else value) rest := by
  have noSign : Apart ("+-" : Text).contains digits := numeral.apart (by decide)
  have readMark := parse_exponentMark known (sign ++ (digits ++ rest))
  have readSign := parse_exponentSign signed (noSign.stops_append rest)
  simp only [exponentPart, parse_keep, parse_drop, parse_succeed, Outcome.andThen_success,
    List.append_assoc, readMark, readSign]

theorem parse_exponentPart_append {exponent : Int} (member : ExponentText text exponent)
    (stops : Stops isDigit rest) : exponentPart.parse (text ++ rest) = .success exponent rest := by
  obtain ⟨known, signed, integer⟩ := member
  have readNumber := parse_integerNumber_append integer stops
  obtain ⟨numeral, -⟩ := integer
  rw [parse_exponentPart_digits known signed numeral, readNumber, Outcome.andThen_success]

theorem refuses_exponentPart (stops : Stops isNumberPart rest) : Refuses exponentPart rest := by
  have noMark : Refuses (oneOf ((["e", "E"] : List Text).map string)) rest := refuses_literals (by decide) stops
  obtain ⟨reason, failed⟩ : Refuses (oneOf [string "e", string "E"]) rest := noMark
  refine ⟨reason, ?_⟩
  simp only [exponentPart, parse_keep, parse_drop, parse_succeed, Outcome.andThen_success, failed,
    Outcome.andThen_failure]

/-- An exponent ends the digits of the mantissa. -/
theorem ExponentText.stops {exponent : Int} (member : ExponentText text exponent) (rest : Text) :
    Stops isNumeralPart (text ++ rest) := by
  obtain ⟨known, signed, numeral⟩ := member
  simp only [List.append_assoc]
  simp only [List.mem_cons, List.not_mem_nil, or_false] at known
  rcases known with rfl | rfl
  · exact Stops.append (by decide) (by decide)
  · exact Stops.append (by decide) (by decide)

/-- A number is made of the parts that are read, one behind the other. -/
theorem parse_numberParser_read {sign body behind rest : Text} {sign? : Option Text} {mantissa : Number}
    {exponent? : Option Int} (signed : Optional (Literal "-") sign sign?) (here : MantissaText body mantissa)
    (readMantissa : mantissaPart.parse (body ++ behind) = .success mantissa behind)
    (readExponent : exponentPart.optional.parse behind = .success exponent? rest) :
    numberParser.parse (sign ++ (body ++ behind)) =
      match makeNumber sign? mantissa exponent? with
      | .ok value => .success value rest
      | .error fault => .fault fault := by
  have noSign : Refuses (string "-") (body ++ behind) := by
    have apart : Apart ("-" : Text).contains body := here.apart (by decide)
    exact refuses_string_stops (by decide) (apart.stops_append behind)
  have readSign : (string "-").optional.parse (sign ++ (body ++ behind)) = .success sign? (body ++ behind) := by
    refine parse_optional_append ?_ noSign signed
    intro text value reading
    obtain ⟨rfl, rfl⟩ := reading
    exact parse_string_append "-" _
  simp only [numberParser, parse_raising, parse_keep, parse_succeed, Outcome.andThen_success, readSign,
    readMantissa, readExponent]
  cases makeNumber sign? mantissa exponent? <;> rfl

/-- The parts of a number are read where the mantissa and the exponent do not go on, and the number is
made of them. -/
theorem parse_numberParser_parts {sign body scale : Text} {sign? : Option Text} {mantissa : Number}
    {exponent? : Option Int} (signed : Optional (Literal "-") sign sign?) (here : MantissaText body mantissa)
    (ends : Stops isNumeralPart (scale ++ rest))
    (readExponent : exponentPart.optional.parse (scale ++ rest) = .success exponent? rest) :
    numberParser.parse (sign ++ body ++ scale ++ rest) =
      match makeNumber sign? mantissa exponent? with
      | .ok value => .success value rest
      | .error fault => .fault fault := by
  simp only [List.append_assoc]
  exact parse_numberParser_read signed here (parse_mantissaPart_append here ends) readExponent

/-- A number is accepted wherever it does not go on. -/
theorem parse_numberParser_append {number : Number} (member : NumberText text number)
    (stops : Stops isNumberPart rest) : numberParser.parse (text ++ rest) = .success number rest := by
  obtain ⟨signed, here, scaled, made⟩ := member
  rename_i sign body scale sign? mantissa exponent?
  have ends : Stops isNumeralPart (scale ++ rest) := by
    cases scaled with
    | absent => exact stops_numeral stops
    | present exponent => exact exponent.stops rest
  have readExponent : exponentPart.optional.parse (scale ++ rest) = .success exponent? rest :=
    parse_optional_append (fun exponent => parse_exponentPart_append exponent (stops_numeral stops).digit)
      (refuses_exponentPart stops) scaled
  rw [parse_numberParser_parts signed here ends readExponent, made]

end ParserAlgebra.Json
