import ParserAlgebra.Proofs.Parser.Numeral

namespace ParserAlgebra.Parser

open Text

variable {α : Type} {ofReal : Double → α} {ofInteger : Nat → α} {source : Text} {outcome : Outcome α}

/-- The longest run of digits at the front of a text, with the fraction behind it, decides what number is read
there. -/
inductive LeadingNumber (ofReal : Double → α) (ofInteger : Nat → α) : Text → Outcome α → Prop where
  | real {whole places rest : Text} {index : Nat} (left : Numeral whole) (right : Numeral places)
      (stops : Stops isDigit rest)
      (nearest : Double.NearestIndex (pointedValue whole places * Double.unitsInOne) index) :
      LeadingNumber ofReal ofInteger (whole ++ ("." : Text) ++ places ++ rest)
        (.success (ofReal (.ofIndex false index)) rest)
  | integer {digits rest : Text} (numeral : Numeral digits) (stops : Stops isDigit rest)
      (whole : NoFraction rest) (short : digits.length ≤ 4300) :
      LeadingNumber ofReal ofInteger (digits ++ rest) (.success (ofInteger (positionalValue digits)) rest)
  | overlong {digits rest : Text} (numeral : Numeral digits) (stops : Stops isDigit rest)
      (whole : NoFraction rest) (long : 4300 < digits.length) :
      LeadingNumber ofReal ofInteger (digits ++ rest) (.failure (.unexpected digits))
  | noDigit {source : Text} (nonempty : source ≠ []) (stops : Stops isDigit source) :
      LeadingNumber ofReal ofInteger source (.failure (.unexpected source))
  | nothing : LeadingNumber ofReal ofInteger [] (.failure .endOfInput)

/-- Every text is read as a number or refused. -/
theorem exists_leadingNumber (ofReal : Double → α) (ofInteger : Nat → α) (source : Text) :
    ∃ outcome, LeadingNumber ofReal ofInteger source outcome := by
  rcases stops_or_run isDigit source with stops | ⟨digits, rest, rfl, nonempty, run, stops⟩
  · by_cases nothing : source = []
    · subst nothing
      exact ⟨_, .nothing⟩
    · exact ⟨_, .noDigit nothing stops⟩
  · have numeral : Numeral digits := ⟨nonempty, run⟩
    rcases noFraction_or_fraction rest with whole | ⟨places, behind, rfl, right, stops⟩
    · by_cases short : digits.length ≤ 4300
      · exact ⟨_, .integer numeral stops whole short⟩
      · exact ⟨_, .overlong numeral stops whole (Nat.lt_of_not_le short)⟩
    · obtain ⟨index, -, nearest⟩ := Double.nearest_iff.1 (readReal_nearest numeral right)
      have shape : digits ++ (("." : Text) ++ places ++ behind) = digits ++ ("." : Text) ++ places ++ behind := by
        simp only [List.append_assoc]
      rw [shape]
      exact ⟨_, .real numeral right stops nearest⟩

/-- Digits with a fraction are read as a double, and every other text as an integer. -/
theorem LeadingNumber.parse_eq (leading : LeadingNumber ofReal ofInteger source outcome) :
    (oneOf [realNumber.transform ofReal, integerNumber.transform ofInteger]).parse source = outcome := by
  cases leading with
  | real left right stops nearest => exact parse_oneOf_real _ _ (.real left right (Double.nearest_iff.2 ⟨_, rfl, nearest⟩)) stops
  | integer numeral stops whole short =>
      exact parse_oneOf_integer _ _ _ (.integer numeral short) stops whole
  | overlong numeral stops whole long =>
      have refusesReal := (refuses_realNumber_whole numeral stops whole).transform ofReal
      rw [refusesReal.parse_oneOf, parse_oneOf_singleton, parse_transform,
        parse_integerNumber_overlong numeral.run stops long, Outcome.andThen_failure]
  | noDigit nonempty stops =>
      have refusesReal := (refuses_realNumber stops).transform ofReal
      rw [refusesReal.parse_oneOf, parse_oneOf_singleton, parse_transform,
        parse_integerNumber_stops nonempty stops, Outcome.andThen_failure]
  | nothing => rfl

end ParserAlgebra.Parser
