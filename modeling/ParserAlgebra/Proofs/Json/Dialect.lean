import ParserAlgebra.Proofs.Json.Number
import ParserAlgebra.Proofs.Parser.Quoted

namespace ParserAlgebra.Json

open ParserAlgebra.Language ParserAlgebra.Parser Text

/-- The points in which dialects of JSON differ. -/
structure Dialect where
  /-- These code points may stand around values and keys. -/
  blank : CodePoint → Bool
  /-- These code points may stand for themselves in a string. -/
  plain : CodePoint → Bool
  /-- A number may begin with zeros that add nothing. -/
  leadingZeros : Bool
  /-- A comma may stand behind the last item of a list. -/
  trailingComma : Bool

/-- The code points from the space on may stand for themselves in a standard string. -/
def firstPlain : Nat := 0x20

/-- The standard of JSON. -/
def standard : Dialect where
  blank := ("\t\n\r " : Text).contains
  plain point := isStandardPlain point && firstPlain ≤ point.toNat
  leadingZeros := false
  trailingComma := false

variable {dialect : Dialect} {text rest digits : Text}

/-- One unit of a string is a code point that stands for itself, an escape of the table, or an escape
with four hexadecimal digits. -/
inductive UnitShape (dialect : Dialect) : Text → Unit → Prop where
  | plain {point : CodePoint} (accepted : dialect.plain point = true) : UnitShape dialect [point] ()
  | escape {name meaning : Text} (known : (name, meaning) ∈ standardEscapes) :
      UnitShape dialect (standardEscape ++ name) ()
  | numbered {digits : Text} (four : digits.length = 4) (run : Run isHexadecimal digits) :
      UnitShape dialect (standardEscape ++ ("u" : Text) ++ digits) ()

/-- A string is a sequence of units between quotes. -/
inductive StringShape (dialect : Dialect) : Text → Unit → Prop where
  | quoted {content : Text} {parts : List Unit} (units : Sequence (UnitShape dialect) content parts) :
      StringShape dialect (standardQuote ++ content ++ standardQuote) ()

/-- The digits in front of a fraction. -/
structure WholeShape (dialect : Dialect) (digits : Text) : Prop where
  numeral : Numeral digits
  zeros : dialect.leadingZeros = true ∨ (("0" : Text) <+: digits → digits = "0")

/-- A number without sign and exponent, whose digits are limited if it is an integer. -/
inductive MantissaShape (dialect : Dialect) : Text → Prop where
  | integer {whole : Text} (digits : WholeShape dialect whole) (short : whole.length ≤ integerDigitLimit) :
      MantissaShape dialect whole
  | real {whole fraction : Text} (digits : WholeShape dialect whole) (places : Numeral fraction) :
      MantissaShape dialect (whole ++ ("." : Text) ++ fraction)

/-- A number is an optional minus sign, a mantissa and an optional exponent. -/
inductive NumberShape (dialect : Dialect) : Text → Prop where
  | number {sign body scale : Text} {sign? : Option Text} {exponent? : Option Int}
      (signed : Optional (Literal "-") sign sign?) (here : MantissaShape dialect body)
      (scaled : Optional ExponentText scale exponent?) : NumberShape dialect (sign ++ body ++ scale)

/-- The items of a list have commas between them. -/
inductive ItemsShape (dialect : Dialect) (item : Text → Unit → Prop) : Text → Prop where
  | empty : ItemsShape dialect item []
  | items {text : Text} {units : List Unit} (items : Separated item text units) : ItemsShape dialect item text
  | trailing {text : Text} {units : List Unit} (allowed : dialect.trailingComma = true)
      (items : Separated item text units) : ItemsShape dialect item (text ++ ("," : Text))

/-- A member is a key, a colon and a value. -/
inductive MemberShape (dialect : Dialect) (value : Text → Unit → Prop) : Text → Unit → Prop where
  | member {name text : Text} (named : Padded dialect.blank (StringShape dialect) name ())
      (here : Padded dialect.blank value text ()) : MemberShape dialect value (name ++ (":" : Text) ++ text) ()

/-- The words that are values. -/
def words : List Text := ["true", "false", "null"]

/-- A value without blanks around it. -/
inductive Shape (dialect : Dialect) : Text → Unit → Prop where
  | object {text blank : Text} (items : ItemsShape dialect (MemberShape dialect (Shape dialect)) text)
      (after : Run dialect.blank blank) :
      Shape dialect (("\x7b" : Text) ++ text ++ blank ++ ("\x7d" : Text)) ()
  | array {text blank : Text} (items : ItemsShape dialect (Padded dialect.blank (Shape dialect)) text)
      (after : Run dialect.blank blank) : Shape dialect (("[" : Text) ++ text ++ blank ++ ("]" : Text)) ()
  | text {source : Text} (quoted : StringShape dialect source ()) : Shape dialect source ()
  | number {source : Text} (numeral : NumberShape dialect source) : Shape dialect source ()
  | word {source : Text} (known : source ∈ words) : Shape dialect source ()

/-- A text conforms to a dialect if it is a value with blanks around it. -/
def Conforms (dialect : Dialect) (source : Text) : Prop :=
  Padded dialect.blank (Shape dialect) source ()

/-- A number begins with a digit or a minus sign. -/
theorem NumberShape.apart {other : CodePoint → Bool} (numeral : NumberShape dialect text)
    (disjoint : ∀ point ∈ CharacterClass.decimalDigits, other point = false)
    (outside : Apart other ("-" : Text)) : Apart other text := by
  obtain ⟨signed, here, scaled⟩ := numeral
  cases signed with
  | absent =>
      cases here with
      | integer digits short => exact (digits.numeral.apart disjoint).append _
      | real digits places => exact (((digits.numeral.apart disjoint).append _).append _).append _
  | present minus =>
      obtain ⟨rfl, -⟩ := minus
      exact (outside.append _).append _

/-- A value that begins with a bracket is an array. -/
theorem Shape.items_of_bracket (shape : Shape dialect (("[" : Text) ++ rest) ()) :
    ∃ text blank, rest = text ++ blank ++ ("]" : Text) ∧
      ItemsShape dialect (Padded dialect.blank (Shape dialect)) text ∧ Run dialect.blank blank := by
  generalize whole : ("[" : Text) ++ rest = source at shape
  cases shape with
  | object items after => exact absurd (List.cons.inj whole).1 (by decide)
  | @array text blank items after =>
      simp only [List.append_assoc, List.append_cancel_left_eq] at whole
      exact ⟨text, blank, by simp [whole], items, after⟩
  | text quoted =>
      obtain ⟨units⟩ := quoted
      exact absurd (List.cons.inj whole).1 (by decide)
  | number numeral =>
      have apart : Apart ("[" : Text).contains source := numeral.apart (by decide) (by decide)
      rw [← whole] at apart
      exact absurd (apart.stops _ rfl) (by decide)
  | word known =>
      have apart : ∀ word ∈ words, Apart ("[" : Text).contains word := by decide
      have here := apart source known
      rw [← whole] at here
      exact absurd (here.stops _ rfl) (by decide)

/-- A value that begins with a quote is a string. -/
theorem Shape.string_of_quote (shape : Shape dialect (standardQuote ++ rest) ()) :
    StringShape dialect (standardQuote ++ rest) () := by
  generalize whole : standardQuote ++ rest = source at shape
  cases shape with
  | object items after => exact absurd (List.cons.inj whole).1 (by decide)
  | array items after => exact absurd (List.cons.inj whole).1 (by decide)
  | text quoted => exact quoted
  | number numeral =>
      have apart : Apart standardQuote.contains source := numeral.apart (by decide) (by decide)
      rw [← whole] at apart
      exact absurd (apart.stops _ rfl) (by decide)
  | word known =>
      have apart : ∀ word ∈ words, Apart standardQuote.contains word := by decide
      have here := apart source known
      rw [← whole] at here
      exact absurd (here.stops _ rfl) (by decide)

/-- A value of digits is an integer. -/
theorem Shape.whole_of_digits (shape : Shape dialect text ()) (run : Run isDigit text) :
    WholeShape dialect text := by
  cases shape with
  | object items after =>
      simp only [run_append] at run
      exact absurd run.1.1.1 (by decide)
  | array items after =>
      simp only [run_append] at run
      exact absurd run.1.1.1 (by decide)
  | text quoted =>
      obtain ⟨units⟩ := quoted
      simp only [run_append] at run
      exact absurd run.1.1 (by decide)
  | number numeral =>
      obtain ⟨signed, here, scaled⟩ := numeral
      simp only [run_append] at run
      obtain ⟨⟨signRun, bodyRun⟩, scaleRun⟩ := run
      cases signed with
      | present minus =>
          obtain ⟨rfl, -⟩ := minus
          exact absurd signRun (by decide)
      | absent =>
          cases scaled with
          | present exponent =>
              obtain ⟨known, signed, numeral⟩ := exponent
              have marks : ∀ mark ∈ (["e", "E"] : List Text), ¬ Run isDigit mark := by decide
              simp only [run_append] at scaleRun
              exact absurd scaleRun.1.1 (marks _ known)
          | absent =>
              cases here with
              | integer digits short => rwa [List.nil_append, List.append_nil]
              | real digits places =>
                  simp only [run_append] at bodyRun
                  exact absurd bodyRun.1.2 (by decide)
  | word known =>
      have others : ∀ word ∈ words, ¬ Run isDigit word := by decide
      exact absurd run (others text known)

theorem numeral_reverse (numeral : Numeral text) : Numeral text.reverse :=
  ⟨by simpa using numeral.nonempty, numeral.run.reverse⟩

/-- A text ends outside a class if its reversal begins outside of it. -/
theorem Apart.reverse_append {test : CodePoint → Bool} (front : Text) (apart : Apart test rest.reverse) :
    Apart test (front ++ rest).reverse := by
  rw [List.reverse_append]
  exact apart.append _

/-- No value ends with a comma. -/
theorem Shape.ends (shape : Shape dialect text ()) : Apart ("," : Text).contains text.reverse := by
  cases shape with
  | object items after => exact Apart.reverse_append _ (by decide)
  | array items after => exact Apart.reverse_append _ (by decide)
  | text quoted =>
      obtain ⟨units⟩ := quoted
      exact Apart.reverse_append _ (by decide)
  | number numeral =>
      obtain ⟨signed, here, scaled⟩ := numeral
      cases scaled with
      | present exponent =>
          obtain ⟨known, signed, digits, short⟩ := exponent
          exact Apart.reverse_append _ (Apart.reverse_append _ ((numeral_reverse digits).apart (by decide)))
      | absent =>
          rw [List.append_nil]
          cases here with
          | integer digits short =>
              exact Apart.reverse_append _ ((numeral_reverse digits.numeral).apart (by decide))
          | real digits places =>
              exact Apart.reverse_append _ (Apart.reverse_append _ ((numeral_reverse places).apart (by decide)))
  | word known =>
      have others : ∀ word ∈ words, Apart ("," : Text).contains word.reverse := by decide
      exact others text known

/-- Neither a value with blanks behind it nor a list of such values ends with a comma. -/
theorem padded_ends (padded : Padded standard.blank (Shape standard) text ()) :
    Apart ("," : Text).contains text.reverse := by
  obtain ⟨before, inner, after⟩ := padded
  rename_i left text right
  have ends := Shape.ends inner
  rw [List.append_assoc]
  refine Apart.reverse_append _ ⟨by simp [ends.nonempty], ?_⟩
  rw [List.reverse_append]
  exact after.reverse.stops_append (disjoint_of_members (by decide)) ends.stops

theorem separated_ends {units : List Unit}
    (separated : Separated (Padded standard.blank (Shape standard)) text units) :
    Apart ("," : Text).contains text.reverse := by
  induction separated with
  | single only => exact padded_ends only
  | cons first others inductionHypothesis => exact Apart.reverse_append _ inductionHypothesis

/-- No array of the standard has a comma behind its last element. -/
theorem standard_trailing_comma (text : Text) :
    ¬ Conforms standard (("[" : Text) ++ (text ++ (("," : Text) ++ ("]" : Text)))) := by
  intro conforms
  have closing : Apart standard.blank ("]" : Text).reverse := by decide
  have last := Apart.reverse_append ("[" : Text) (Apart.reverse_append text (Apart.reverse_append "," closing))
  have shape : Shape standard (("[" : Text) ++ (text ++ (("," : Text) ++ ("]" : Text)))) () :=
    conforms.inner (Stops.append (by decide) (by decide)) last.stops
  obtain ⟨inner, blank, whole, items, after⟩ := shape.items_of_bracket
  rw [← List.append_assoc, List.append_cancel_right_eq] at whole
  -- The comma would be the last code point of the blanks or of the items.
  have ends : Apart ("," : Text).contains (inner ++ blank).reverse := by
    by_cases none : blank = []
    · rw [none, List.append_nil] at whole ⊢
      cases items with
      | empty => exact absurd whole (by simp [Text.ofString])
      | items separated => exact separated_ends separated
      | trailing allowed separated => exact absurd allowed (by decide)
    · refine Apart.reverse_append _ (after.reverse.apart (by simpa using none) ?_)
      exact disjoint_of_members (by decide)
  rw [← whole, List.reverse_append] at ends
  exact absurd (ends.stops _ rfl) (by decide)

/-- No number of the standard has a zero in front of its other digits. -/
theorem standard_leading_zero (numeral : Numeral digits) : ¬ Conforms standard (("0" : Text) ++ digits) := by
  intro conforms
  have run : Run isDigit (("0" : Text) ++ digits) := run_append.2 ⟨by decide, numeral.run⟩
  have all : Numeral (("0" : Text) ++ digits) := ⟨by simp [numeral.nonempty], run⟩
  have shape : Shape standard (("0" : Text) ++ digits) () :=
    conforms.inner (all.apart (by decide)).stops ((numeral_reverse all).apart (by decide)).stops
  rcases (shape.whole_of_digits run).zeros with allowed | single
  · exact absurd allowed (by decide)
  · have same := single (List.prefix_append _ _)
    exact numeral.nonempty (List.append_right_eq_self.1 same)

/-- The code points of a unit are no controls. -/
theorem standard_unit (unit : UnitShape standard text ()) : ∀ point ∈ text, firstPlain ≤ point.toNat := by
  cases unit with
  | plain accepted =>
      simp only [standard, Bool.and_eq_true, decide_eq_true_eq] at accepted
      simpa using accepted.2
  | @escape name meaning known =>
      have escapes : ∀ entry ∈ standardEscapes, ∀ point ∈ standardEscape ++ entry.1,
          firstPlain ≤ point.toNat := by decide
      exact escapes (name, meaning) known
  | numbered four run =>
      have mark : ∀ point ∈ standardEscape ++ ("u" : Text), firstPlain ≤ point.toNat := by decide
      have hexadecimal : ∀ point ∈ CharacterClass.hexadecimalDigits, firstPlain ≤ point.toNat := by decide
      intro point member
      rcases List.mem_append.1 member with front | digit
      · exact mark point front
      · exact hexadecimal point (List.contains_iff_mem.1 (run point digit))

/-- No string of the standard has a control in it. -/
theorem standard_control {content : Text}
    (conforms : Conforms standard (standardQuote ++ (content ++ standardQuote))) :
    ∀ point ∈ content, firstPlain ≤ point.toNat := by
  have closing : Apart standard.blank standardQuote.reverse := by decide
  have last := Apart.reverse_append standardQuote (Apart.reverse_append content closing)
  have shape : Shape standard (standardQuote ++ (content ++ standardQuote)) () :=
    conforms.inner (Stops.append (by decide) (by decide)) last.stops
  have string := shape.string_of_quote
  generalize whole : standardQuote ++ (content ++ standardQuote) = source at string
  obtain ⟨units⟩ := string
  rw [List.append_assoc, List.append_cancel_left_eq, List.append_cancel_right_eq] at whole
  rw [whole]
  exact units.forall_mem standard_unit

end ParserAlgebra.Json
