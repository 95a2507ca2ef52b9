import ParserAlgebra.Proofs.Json.Dialect
import ParserAlgebra.Proofs.Json.Fault

namespace ParserAlgebra.Json

open ParserAlgebra.Language ParserAlgebra.Parser Text

variable {text rest source : Text}

/-- The dialect of the decoder, with controls in strings, zeros in front of numbers and a comma behind the last
item. -/
def lenient : Dialect where
  blank := isWhitespace
  plain := isStandardPlain
  leadingZeros := true
  trailingComma := true

theorem stringShape_iff : StringShape lenient text () ↔ ∃ meaning, StringText text meaning := by
  constructor
  · intro shape
    obtain ⟨units⟩ := shape
    have each : ∀ {part value}, UnitShape lenient part value → ∃ meaning, StringUnit part meaning := by
      intro part value member
      cases member with
      | plain accepted =>
          simp only [lenient, isPlain, Bool.and_eq_true, bne_iff_ne] at accepted
          exact ⟨_, .plain accepted.1 accepted.2⟩
      | escape known => exact ⟨_, .escape known⟩
      | numbered four run => exact ⟨_, .numbered four run (toNat_ofNat_hexadecimal four run)⟩
    obtain ⟨parts, sequence⟩ := units.exists_map each
    exact ⟨_, .quoted sequence⟩
  · rintro ⟨meaning, ⟨units⟩⟩
    have each : ∀ {part value}, StringUnit part value → ∃ image, UnitShape lenient part image := by
      intro part value member
      cases member with
      | plain noQuote noEscape => exact ⟨(), .plain (by simp [lenient, isPlain, noQuote, noEscape])⟩
      | escape known => exact ⟨(), .escape known⟩
      | numbered four run => exact ⟨(), .numbered four run⟩
    obtain ⟨parts, sequence⟩ := units.exists_map each
    exact .quoted sequence

theorem mantissaShape_iff : MantissaShape lenient text ↔ ∃ mantissa, MantissaText text mantissa := by
  constructor
  · intro shape
    cases shape with
    | integer digits short => exact ⟨_, .integer (.integer digits.numeral short)⟩
    | real digits places => exact ⟨_, .real (.real digits.numeral places (readReal_nearest digits.numeral places))⟩
  · rintro ⟨mantissa, member⟩
    cases member with
    | real numeral =>
        obtain ⟨left, right⟩ := numeral
        exact .real ⟨left, .inl rfl⟩ right
    | integer numeral =>
        obtain ⟨digits, short⟩ := numeral
        exact .integer ⟨digits, .inl rfl⟩ short

/-- A list that means something has a shape, if its items have shapes. -/
theorem itemsShape_of_listed {α : Type} {item : Language α} {image : Text → Unit → Prop} {values : List α}
    (listed : Listed item text values)
    (each : ∀ {part value}, part.length ≤ text.length → item part value → image part ()) :
    ItemsShape lenient image text := by
  cases listed with
  | empty => exact .empty
  | items separated =>
      obtain ⟨units, shapes⟩ := separated.exists_map fun small member => ⟨(), each small member⟩
      exact .items shapes
  | trailing separated =>
      simp only [List.length_append] at each
      obtain ⟨units, shapes⟩ := separated.exists_map fun small member => ⟨(), each (by omega) member⟩
      exact .trailing rfl shapes

/-- A value has a shape. -/
theorem shape_of_value {value : Json} (member : Value text value) : Shape lenient text () := by
  -- The induction is on the length, since the texts inside brackets are shorter.
  induction bound : text.length using Nat.strongRecOn generalizing text value with
  | ind bound inductionHypothesis =>
      subst bound
      have padded : ∀ {part value}, part.length < text.length → Padded isWhitespace Value part value →
          Padded lenient.blank (Shape lenient) part () := by
        rintro _ value shorter ⟨before, inner, after⟩
        simp only [List.length_append] at shorter
        exact .padded before (inductionHypothesis _ (by omega) inner rfl) after
      cases member with
      | object listed collected after =>
          refine .object (itemsShape_of_listed listed ?_) after
          rintro _ _ small ⟨⟨before, quoted, behind⟩, here⟩
          have opening : 0 < ("\x7b" : Text).length := by decide
          simp only [List.length_append] at small padded
          exact .member (.padded before (stringShape_iff.2 ⟨_, quoted⟩) behind) (padded (by omega) here)
      | array listed after =>
          refine .array (itemsShape_of_listed listed fun small item => padded ?_ item) after
          have opening : 0 < ("[" : Text).length := by decide
          simp only [List.length_append]
          omega
      | text quoted => exact .text (stringShape_iff.2 ⟨_, quoted⟩)
      | number numeral =>
          obtain ⟨signed, here, scaled, made⟩ := numeral
          exact .number (.number signed (mantissaShape_iff.2 ⟨_, here⟩) scaled)
      | true => exact .word (by decide)
      | false => exact .word (by decide)
      | null => exact .word (by decide)

/-- Wherever the text stands, the reading gets to a number in it that raises a fault. -/
def Stuck (text : Text) : Prop :=
  ∃ fault, ∀ ⦃rest⦄, Stops isNumberPart rest → Raising (text ++ rest) fault

/-- A number has a value, or its parts raise a fault. -/
theorem number_or_stuck (shape : NumberShape lenient text) : (∃ value, NumberText text value) ∨ Stuck text := by
  obtain ⟨signed, here, scaled⟩ := shape
  rename_i sign body scale sign? exponent?
  obtain ⟨mantissa, member⟩ := mantissaShape_iff.1 here
  cases made : makeNumber sign? mantissa exponent? with
  | ok value => exact .inl ⟨value, .number signed member scaled made⟩
  | error fault =>
      obtain ⟨⟨exponent, rfl⟩, -⟩ := makeNumber_eq_error made
      cases scaled with
      | present part =>
          refine .inr ⟨fault, fun rest stops => ?_⟩
          exact .number (.number signed member part made) (stops_numeral stops).digit

/-- Behind an item of a list stands nothing of a number. -/
theorem stops_behind_item {right after blank : Text} (run : Run isWhitespace right)
    (follows : after = [] ∨ ("," : Text) <+: after) (behind : Run isWhitespace blank)
    (stops : Stops isNumberPart rest) : Stops isNumberPart (right ++ (after ++ (blank ++ rest))) := by
  refine stops_blank run ?_
  rcases follows with rfl | ⟨more, rfl⟩
  · rw [List.nil_append]
    exact stops_blank behind stops
  · rw [List.append_assoc]
    exact follows_comma _

/-- The items of a list are good, or good items stand in front of a bad one. -/
theorem listed_or_bad {α : Type} {item : Text → Unit → Prop} {good : Language α} {bad : Text → Prop}
    (items : ItemsShape lenient item text)
    (each : ∀ {part}, part.length ≤ text.length → item part () → (∃ image, good part image) ∨ bad part) :
    (∃ values, Listed good text values) ∨
      ∃ front part after images, text = front ++ (part ++ after) ∧ Sequence (Ended good) front images ∧
        bad part ∧ (after = [] ∨ ("," : Text) <+: after) := by
  cases items with
  | empty => exact .inl ⟨[], .empty⟩
  | items separated =>
      rcases separated.good_or_bad each with ⟨images, done⟩ | stuck
      · exact .inl ⟨images, .items done⟩
      · exact .inr stuck
  | trailing allowed separated =>
      simp only [List.length_append] at each
      rcases separated.good_or_bad fun small member => each (by omega) member with
        ⟨images, done⟩ | ⟨front, part, after, images, rfl, before, stuck, follows⟩
      · exact .inl ⟨images, .trailing done⟩
      · refine .inr ⟨front, part, after ++ ("," : Text), images, by simp, before, stuck, .inr ?_⟩
        rcases follows with rfl | ⟨more, rfl⟩
        · exact List.prefix_rfl
        · rw [List.append_assoc]
          exact List.prefix_append _ _

/-- A padded value is stuck behind the blanks in front of it. -/
def PaddedStuck (part : Text) : Prop :=
  ∃ left inner right, part = left ++ (inner ++ right) ∧ Run isWhitespace left ∧ Run isWhitespace right ∧
    Stuck inner

/-- A member is stuck behind its key. -/
def MemberStuck (part : Text) : Prop :=
  ∃ name key text, part = name ++ ((":" : Text) ++ text) ∧ Padded isWhitespace StringText name key ∧
    PaddedStuck text

theorem named_of_shape {name : Text} (named : Padded lenient.blank (StringShape lenient) name ()) :
    ∃ key, Padded isWhitespace StringText name key := by
  obtain ⟨before, quoted, after⟩ := named
  obtain ⟨key, string⟩ := stringShape_iff.1 quoted
  exact ⟨key, .padded before string after⟩

/-- A text of the lenient dialect is a value, or it is stuck. -/
theorem value_or_stuck (shape : Shape lenient text ()) : (∃ value, Value text value) ∨ Stuck text := by
  -- The induction is on the length, since the texts inside brackets are shorter.
  induction bound : text.length using Nat.strongRecOn generalizing text with
  | ind bound inductionHypothesis =>
      subst bound
      have padded : ∀ {part}, part.length < text.length → Padded lenient.blank (Shape lenient) part () →
          (∃ value, Padded isWhitespace Value part value) ∨ PaddedStuck part := by
        intro part shorter item
        obtain ⟨before, inner, after⟩ := item
        rename_i left text right
        simp only [List.length_append] at shorter
        rcases inductionHypothesis _ (by omega) inner rfl with ⟨value, member⟩ | stuck
        · exact .inl ⟨value, .padded before member after⟩
        · exact .inr ⟨left, text, right, by simp, before, after, stuck⟩
      cases shape with
      | @object text blank items after =>
          have opening : 0 < ("\x7b" : Text).length := by decide
          simp only [List.length_append] at padded
          have member : ∀ {part}, part.length ≤ text.length → MemberShape lenient (Shape lenient) part () →
              (∃ pair, Member Value part pair) ∨ MemberStuck part := by
            rintro _ small ⟨named, here⟩
            rename_i name inner
            obtain ⟨key, keyed⟩ := named_of_shape named
            simp only [List.length_append] at small
            rcases padded (by omega) here with ⟨value, behind⟩ | stuck
            · exact .inl ⟨(key, value), .member keyed behind⟩
            · exact .inr ⟨name, key, inner, by simp, keyed, stuck⟩
          rcases listed_or_bad items member with
            ⟨pairs, listed⟩ | ⟨front, part, more, members, rfl, before, stuck, follows⟩
          · exact .inl ⟨_, .object listed (Association.ofPairs_eq_iff.1 rfl) after⟩
          · obtain ⟨name, key, _, rfl, named, left, inner, right, rfl, leftRun, rightRun, fault, raises⟩ := stuck
            refine .inr ⟨fault, fun rest stops => ?_⟩
            have closing : Stops isNumberPart (("\x7d" : Text) ++ rest) := Stops.append (by decide) (by decide)
            have raising := raises (stops_behind_item rightRun follows after closing)
            simpa using Raising.member before named leftRun raising
      | @array text blank items after =>
          have opening : 0 < ("[" : Text).length := by decide
          simp only [List.length_append] at padded
          rcases listed_or_bad items fun small item => padded (by omega) item with
            ⟨elements, listed⟩ | ⟨front, part, more, elements, rfl, before, stuck, follows⟩
          · exact .inl ⟨_, .array listed after⟩
          · obtain ⟨left, inner, right, rfl, leftRun, rightRun, fault, raises⟩ := stuck
            refine .inr ⟨fault, fun rest stops => ?_⟩
            have closing : Stops isNumberPart (("]" : Text) ++ rest) := Stops.append (by decide) (by decide)
            have raising := raises (stops_behind_item rightRun follows after closing)
            simpa using Raising.element before leftRun raising
      | text quoted =>
          obtain ⟨meaning, string⟩ := stringShape_iff.1 quoted
          exact .inl ⟨_, .text string⟩
      | number numeral =>
          rcases number_or_stuck numeral with ⟨value, member⟩ | stuck
          · exact .inl ⟨_, .number member⟩
          · exact .inr stuck
      | word known =>
          simp only [words, List.mem_cons, List.not_mem_nil, or_false] at known
          rcases known with rfl | rfl | rfl
          · exact .inl ⟨_, .true⟩
          · exact .inl ⟨_, .false⟩
          · exact .inl ⟨_, .null⟩

/-- A text on which the decoder raises no decimal fault is decoded exactly if it conforms to the lenient
dialect. -/
theorem decoded_iff_lenient (valid : (decode source).value ≠ .fault .decimalInvalid)
    (small : (decode source).value ≠ .fault .decimalOverflow) :
    (∃ value, (decode source).value = .ok value) ↔ Conforms lenient source := by
  have run : (decode source).value = (run source document).value := rfl
  constructor
  · rintro ⟨value, decoded⟩
    rw [run, value_run_eq_ok] at decoded
    obtain ⟨rest, parsed⟩ := decoded
    obtain ⟨before, inner, after⟩ := (document_of_parse parsed).2
    exact .padded before (shape_of_value inner) after
  · intro conforms
    obtain ⟨before, inner, after⟩ := conforms
    rename_i left text right
    rcases value_or_stuck inner with ⟨value, member⟩ | ⟨fault, raises⟩
    · exact ⟨value, by rw [run, value_run_eq_ok]; exact ⟨[], parse_document (.padded before member after)⟩⟩
    · have blanks : Run isWhitespace left := before
      have ends : Stops isNumberPart right := by simpa using stops_blank after stops_nil
      have raising := raises ends
      have raised : (decode (left ++ text ++ right)).value = .fault fault := by
        rw [decode_eq_fault_iff, List.append_assoc, blanks.dropWhile_append raising.stops]
        exact raising
      rcases raising.decimal with rfl | rfl
      · exact absurd raised valid
      · exact absurd raised small

/-- This text with all the liberties is decoded, and conforms to the lenient dialect. -/
theorem decoded_iff_lenient_liberties :
    ((decode "[01,]").value ≠ .fault .decimalInvalid ∧ (decode "[01,]").value ≠ .fault .decimalOverflow) ∧
      ((∃ value, (decode "[01,]").value = .ok value) ↔ Conforms lenient "[01,]") := by
  have decoded : (decode "[01,]").value = .ok (array [number (.integer 1)]) := by with_unfolding_all rfl
  have valid : (decode "[01,]").value ≠ .fault .decimalInvalid := by simp [decoded]
  have small : (decode "[01,]").value ≠ .fault .decimalOverflow := by simp [decoded]
  exact ⟨⟨valid, small⟩, decoded_iff_lenient valid small⟩

/-- The decoder refuses a carriage return, and accepts a trailing comma, a leading zero and a control in a string. -/
theorem decoder_not_standard :
    (Conforms standard "\r1" ∧ (decode "\r1").value = .failure (literalFailure "null" "\r1")) ∧
      (¬ Conforms standard "[1,]" ∧ (decode "[1,]").value = .ok (array [number (.integer 1)])) ∧
      (¬ Conforms standard "01" ∧ (decode "01").value = .ok (number (.integer 1))) ∧
      (¬ Conforms standard "\"\n\"" ∧ (decode "\"\n\"").value = .ok (Json.text "\n")) := by
  refine ⟨⟨?_, ?_⟩, ⟨?_, ?_⟩, ⟨?_, ?_⟩, ?_, ?_⟩
  · have one : NumberShape standard ([] ++ ("1" : Text) ++ []) :=
      .number .absent (.integer ⟨⟨by decide, by decide⟩, .inr (by decide)⟩ (by decide)) .absent
    have padded : Conforms standard (("\r" : Text) ++ ("1" : Text) ++ []) :=
      .padded (by decide) (.number one) run_nil
    exact padded
  · with_unfolding_all rfl
  · exact standard_trailing_comma "1"
  · with_unfolding_all rfl
  · exact standard_leading_zero ⟨by decide, by decide⟩
  · with_unfolding_all rfl
  · intro conforms
    have controls : ∀ point ∈ ("\n" : Text), firstPlain ≤ point.toNat := standard_control conforms
    exact absurd controls (by decide)
  · with_unfolding_all rfl

end ParserAlgebra.Json
