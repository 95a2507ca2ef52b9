import ParserAlgebra.Parser.Numeral
import ParserAlgebra.Proofs.Number.Nearest
import ParserAlgebra.Proofs.Parser.Acceptance
import ParserAlgebra.Proofs.Parser.Reading
import ParserAlgebra.Proofs.Text.Numeral

namespace ParserAlgebra.Parser

open Text

variable {source text rest : Text}

/-- Digits mean an integer if there are not too many of them. -/
inductive IntegerText : Text → Nat → Prop where
  | integer {digits : Text} (numeral : Numeral digits) (short : digits.length ≤ 4300) :
      IntegerText digits (positionalValue digits)

/-- Digits, a point and digits mean the double nearest to their value. -/
inductive RealText : Text → Double → Prop where
  | real {whole places : Text} {value : Double} (left : Numeral whole) (right : Numeral places)
      (nearest : Double.Nearest false (pointedValue whole places) value) :
      RealText (whole ++ ("." : Text) ++ places) value

theorem readReal_nearest {whole places : Text} (left : Numeral whole) (right : Numeral places) :
    Double.Nearest false (pointedValue whole places) (readReal whole places) := by
  have run : Run isDigit (whole ++ places) := run_append.2 ⟨left.run, right.run⟩
  rw [← positionalValue_pointed, ← numeralValue_eq_positionalValue run]
  exact Double.ofDecimal_nearest false _ _

theorem reads_digits : Reads digits fun text value => text = value ∧ Numeral value := by
  refine (Reads.takeIfAndWhile isDigit).mono ?_
  intro text value reading
  obtain ⟨rfl, nonempty, run⟩ := reading
  exact ⟨rfl, nonempty, run⟩

theorem reads_integerNumber : Reads integerNumber IntegerText := by
  refine ((reads_digits.andThen fun numeral => .fromResult (readInteger numeral)).rename _).mono ?_
  intro text value reading
  obtain ⟨_, _, numeral, rfl, ⟨rfl, member⟩, rfl, converted⟩ := reading
  simp only [readInteger] at converted
  split at converted
  · rename_i short
    cases converted
    rw [List.append_nil, numeralValue_eq_positionalValue member.run]
    exact .integer member short
  · cases converted

theorem reads_realNumber : Reads realNumber RealText := by
  intro source value rest parsed
  simp only [realNumber, parse_rename, parse_keep, parse_drop, parse_succeed,
    Outcome.andThen_success, Outcome.andThen_assoc, Outcome.andThen_eq_success] at parsed
  obtain ⟨whole, _, readWhole, _, _, readPoint, fraction, _, readFraction, done⟩ := parsed
  cases done
  obtain ⟨_, rfl, rfl, left⟩ := reads_digits readWhole
  obtain ⟨_, rfl, rfl, -⟩ := Reads.string _ readPoint
  obtain ⟨_, rfl, rfl, right⟩ := reads_digits readFraction
  exact ⟨_, by simp, .real left right (readReal_nearest left right)⟩

theorem parse_digits_append (numeral : Numeral text) (stops : Stops isDigit rest) :
    digits.parse (text ++ rest) = .success text rest :=
  parse_takeIfAndWhile_run numeral.run numeral.nonempty stops

theorem refuses_digits (stops : Stops isDigit source) : Refuses digits source :=
  refuses_takeIfAndWhile stops

theorem parse_integerNumber_append {value : Nat} (member : IntegerText text value)
    (stops : Stops isDigit rest) : integerNumber.parse (text ++ rest) = .success value rest := by
  obtain ⟨numeral, short⟩ := member
  have few : text.length ≤ integerDigitLimit := short
  simp only [parse_integerNumber, parse_digits_append numeral stops, Outcome.andThen_success,
    readInteger, if_pos few, numeralValue_eq_positionalValue numeral.run]
  rfl

/-- A numeral with too many digits is refused, and the failure shows its digits only. -/
theorem parse_integerNumber_overlong (run : Run isDigit text) (stops : Stops isDigit rest)
    (long : integerDigitLimit < text.length) :
    integerNumber.parse (text ++ rest) = .failure (.unexpected text) := by
  have nonempty : text ≠ [] := by
    rintro rfl
    simp at long
  simp only [parse_integerNumber, parse_digits_append ⟨nonempty, run⟩ stops,
    Outcome.andThen_success, readInteger, if_neg (Nat.not_le_of_lt long)]
  rfl

/-- A text without a digit in front is refused as a whole. -/
theorem parse_integerNumber_stops (nonempty : source ≠ []) (stops : Stops isDigit source) :
    integerNumber.parse source = .failure (.unexpected source) := by
  cases source with
  | nil => exact absurd rfl nonempty
  | cons point points => simp [parse_integerNumber, digits, parse_takeIfAndWhile, stops_cons.1 stops]

theorem parse_realNumber_append {value : Double} (member : RealText text value)
    (stops : Stops isDigit rest) : realNumber.parse (text ++ rest) = .success value rest := by
  obtain ⟨left, right, nearest⟩ := member
  rename_i whole places
  have point : Stops isDigit (("." : Text) ++ (places ++ rest)) := Stops.append (by decide) (by decide)
  have readWhole := parse_digits_append left point
  have readPoint := parse_string_append "." (places ++ rest)
  have readPlaces := parse_digits_append right stops
  have same := (readReal_nearest left right).unique nearest
  simp [realNumber, readWhole, readPoint, readPlaces, same]

/-- No fraction stands at the front of a text: no point with a digit behind it. -/
def NoFraction (rest : Text) : Prop :=
  ∀ fraction behind, Numeral fraction → rest ≠ ("." : Text) ++ fraction ++ behind

/-- A point begins a fraction exactly if a digit stands behind it. -/
theorem noFraction_point_iff : NoFraction (("." : Text) ++ rest) ↔ Stops isDigit rest := by
  constructor
  · intro whole point member
    obtain ⟨behind, rfl⟩ := List.head?_eq_some_iff.1 member
    cases digit : isDigit point with
    | false => rfl
    | true =>
        have numeral : Numeral [point] := ⟨List.cons_ne_nil _ _, run_cons.2 ⟨digit, run_nil⟩⟩
        exact absurd rfl (whole [point] behind numeral)
  · intro stops fraction behind numeral same
    rw [List.append_assoc] at same
    rw [List.append_cancel_left same] at stops
    exact numeral.not_stops behind stops

theorem noFraction_of_stops (stops : Stops isNumeralPart rest) : NoFraction rest := by
  rintro fraction behind - rfl
  exact absurd (stops_cons.1 stops) (by decide)

/-- A fraction at the front of a text is taken with all its digits. -/
theorem noFraction_or_fraction (rest : Text) :
    NoFraction rest ∨
      ∃ places behind, rest = ("." : Text) ++ places ++ behind ∧ Numeral places ∧ Stops isDigit behind := by
  by_cases point : ("." : Text) <+: rest
  · obtain ⟨behind, rfl⟩ := point
    rcases stops_or_run isDigit behind with stops | ⟨places, behind, rfl, nonempty, run, stops⟩
    · exact .inl (noFraction_point_iff.2 stops)
    · exact .inr ⟨places, behind, (List.append_assoc ..).symm, ⟨nonempty, run⟩, stops⟩
  · left
    rintro fraction other - rfl
    exact point ⟨fraction ++ other, (List.append_assoc ..).symm⟩

/-- An integer is no double if neither a digit nor a fraction follows it. -/
theorem refuses_realNumber_whole (numeral : Numeral text) (stops : Stops isDigit rest) (whole : NoFraction rest) :
    Refuses realNumber (text ++ rest) := by
  have readWhole : ((succeed readReal).keep digits).parse (text ++ rest) = .success (readReal text) rest := by
    simp [parse_digits_append numeral stops]
  by_cases point : ("." : Text) <+: rest
  · obtain ⟨behind, rfl⟩ := point
    have readPoint : (((succeed readReal).keep digits).drop (string ".")).parse (text ++ (("." : Text) ++ behind)) =
        .success (readReal text) behind := by
      rw [parse_drop, readWhole, Outcome.andThen_success, parse_string_append, Outcome.andThen_success]
    exact (refuses_digits (noFraction_point_iff.1 whole)).map2_second _ readPoint
  · exact ((refuses_string point).map2_second _ readWhole).map2 _ _

/-- An integer takes all the digits there are. -/
theorem stops_of_integerNumber {value : Nat} (parsed : integerNumber.parse source = .success value rest) :
    Stops isDigit rest := by
  rw [parse_integerNumber, Outcome.andThen_eq_success] at parsed
  obtain ⟨numeral, middle, readDigits, converted⟩ := parsed
  obtain ⟨_, shape, rfl, -⟩ := Reads.fromResult _ converted
  rw [List.nil_append] at shape
  subst shape
  rw [digits, parse_takeIfAndWhile] at readDigits
  split at readDigits
  · cases readDigits
  · split at readDigits <;> cases readDigits
    exact stops_dropWhile isDigit _

theorem refuses_integerNumber (stops : Stops isDigit source) : Refuses integerNumber source :=
  (refuses_digits stops).andThen _

theorem refuses_realNumber (stops : Stops isDigit source) : Refuses realNumber source :=
  (((refuses_digits stops).map2_second _ (parse_succeed _ _)).map2 _ _).map2 _ _

section Choice

variable {α : Type} (ofReal : Double → α) (ofInteger : Nat → α) (others : List (Parser α))

/-- A choice that tries doubles first reads digits with a fraction as a double. -/
theorem parse_oneOf_real {value : Double} (member : RealText text value) (stops : Stops isDigit rest) :
    (oneOf (realNumber.transform ofReal :: others)).parse (text ++ rest) = .success (ofReal value) rest := by
  apply parse_oneOf_first
  simp [parse_realNumber_append member stops]

/-- A choice that tries integers after doubles reads digits without a fraction as an integer. -/
theorem parse_oneOf_integer {value : Nat} (member : IntegerText text value) (stops : Stops isDigit rest)
    (whole : NoFraction rest) :
    (oneOf (realNumber.transform ofReal :: integerNumber.transform ofInteger :: others)).parse (text ++ rest) =
      .success (ofInteger value) rest := by
  have read := parse_integerNumber_append member stops
  obtain ⟨numeral, -⟩ := member
  rw [((refuses_realNumber_whole numeral stops whole).transform ofReal).parse_oneOf]
  apply parse_oneOf_first
  rw [parse_transform, read, Outcome.andThen_success]

/-- A choice passes over the numbers where no digit stands. -/
theorem parse_oneOf_stops (next : Parser α) (stops : Stops isDigit source) :
    (oneOf (realNumber.transform ofReal :: integerNumber.transform ofInteger :: next :: others)).parse source =
      (oneOf (next :: others)).parse source := by
  rw [((refuses_realNumber stops).transform ofReal).parse_oneOf,
    ((refuses_integerNumber stops).transform ofInteger).parse_oneOf]

end Choice

end ParserAlgebra.Parser
