import ParserAlgebra.Proofs.Association
import ParserAlgebra.Proofs.Json.Number
import ParserAlgebra.Proofs.Parser.Quoted
import ParserAlgebra.Proofs.Parser.Token

namespace ParserAlgebra.Json

open ParserAlgebra.Language ParserAlgebra.Parser Text

/-- A member is a key, a colon and a value, with whitespace around the key and the value. -/
inductive Member (value : Text → Json → Prop) : Text → Text × Json → Prop where
  | member {name text : Text} {key : Text} {inner : Json} (named : Padded ("\t\n " : Text).contains StringText name key)
      (here : Padded ("\t\n " : Text).contains value text inner) :
      Member value (name ++ (":" : Text) ++ text) (key, inner)

/-- A value without whitespace around it, whose objects keep a repeated key at its first place with its last value. -/
inductive Value : Text → Json → Prop where
  | object {text blank : Text} {pairs members : List (Text × Json)} (listed : Listed (Member Value) text pairs)
      (collected : Association.Collects pairs members) (after : Run ("\t\n " : Text).contains blank) :
      Value (("\x7b" : Text) ++ text ++ blank ++ ("\x7d" : Text)) (object members)
  | array {text blank : Text} {elements : List Json} (listed : Listed (Padded ("\t\n " : Text).contains Value) text elements)
      (after : Run ("\t\n " : Text).contains blank) : Value (("[" : Text) ++ text ++ blank ++ ("]" : Text)) (array elements)
  | text {source meaning : Text} (quoted : StringText source meaning) : Value source (text meaning)
  | number {source : Text} {meaning : Number} (numeral : NumberText source meaning) :
      Value source (number meaning)
  | true : Value "true" (boolean true)
  | false : Value "false" (boolean false)
  | null : Value "null" null

/-- A document is a value with whitespace around it. -/
abbrev Document : Text → Json → Prop :=
  Padded ("\t\n " : Text).contains Value

/-- This parser reads the key of a member and the colon behind it. -/
def memberHead : Parser (Json → Text × Json) :=
  ((((succeed fun key value => (key, value)).drop whitespace).keep standardString).drop whitespace).drop
    (string ":")

theorem parse_memberParser (element : Parser Json) (source : Text) :
    (memberParser element).parse source =
      (memberHead.parse source).andThen fun build rest =>
        ((token element).parse rest).andThen fun inner final => .success (build inner) final :=
  parse_keep memberHead (token element) source

theorem memberHead_eq_success {source rest : Text} {build : Json → Text × Json}
    (parsed : memberHead.parse source = .success build rest) :
    ∃ name key, source = name ++ ((":" : Text) ++ rest) ∧ Padded isWhitespace StringText name key ∧
      build = fun value => (key, value) := by
  simp only [memberHead, parse_keep, parse_drop, parse_succeed, Outcome.andThen_success, Outcome.andThen_assoc,
    Outcome.andThen_eq_success] at parsed
  obtain ⟨_, _, readLeft, key, _, readKey, _, _, readRight, _, _, readColon, done⟩ := parsed
  cases done
  obtain ⟨left, rfl, before⟩ := reads_whitespace readLeft
  obtain ⟨name, rfl, quoted⟩ := reads_standardString readKey
  obtain ⟨right, rfl, after⟩ := reads_whitespace readRight
  obtain ⟨_, rfl, rfl, -⟩ := Reads.string _ readColon
  exact ⟨left ++ name ++ right, key, by simp, .padded before quoted after, rfl⟩

theorem reads_memberParser {element : Parser Json} (reads : Reads element Value) :
    Reads (memberParser element) (Member Value) := by
  intro source member rest parsed
  rw [parse_memberParser, Outcome.andThen_eq_success] at parsed
  obtain ⟨build, _, readHead, parsed⟩ := parsed
  rw [Outcome.andThen_eq_success] at parsed
  obtain ⟨inner, _, readInner, done⟩ := parsed
  cases done
  obtain ⟨name, key, rfl, named, rfl⟩ := memberHead_eq_success readHead
  obtain ⟨text, rfl, here⟩ := reads_token reads readInner
  exact ⟨name ++ (":" : Text) ++ text, by simp, .member named here⟩

theorem reads_objectParser {element : Parser Json} (reads : Reads element Value) :
    Reads ((objectParser element).transform object) Value := by
  intro source value rest parsed
  simp only [objectParser, parse_transform, parse_keep, parse_drop, parse_succeed, Outcome.andThen_success,
    Outcome.andThen_assoc, Outcome.andThen_eq_success] at parsed
  obtain ⟨_, _, readOpening, pairs, _, readPairs, _, _, readBlank, _, _, readClosing, done⟩ := parsed
  cases done
  obtain ⟨_, rfl, rfl, -⟩ := Reads.string _ readOpening
  obtain ⟨text, rfl, repeated⟩ := (reads_memberParser reads).many (Reads.string ",") readPairs
  obtain ⟨blank, rfl, after⟩ := reads_whitespace readBlank
  obtain ⟨_, rfl, rfl, -⟩ := Reads.string _ readClosing
  exact ⟨("\x7b" : Text) ++ text ++ blank ++ ("\x7d" : Text), by simp,
    .object repeated.listed (Association.ofPairs_eq_iff.1 rfl) after⟩

theorem reads_arrayParser {element : Parser Json} (reads : Reads element Value) :
    Reads ((arrayParser element).transform array) Value := by
  intro source value rest parsed
  simp only [arrayParser, parse_transform, parse_keep, parse_drop, parse_succeed, Outcome.andThen_success,
    Outcome.andThen_assoc, Outcome.andThen_eq_success] at parsed
  obtain ⟨_, _, readOpening, elements, _, readElements, _, _, readBlank, _, _, readClosing, done⟩ := parsed
  cases done
  obtain ⟨_, rfl, rfl, -⟩ := Reads.string _ readOpening
  obtain ⟨text, rfl, repeated⟩ := (reads_token reads).many (Reads.string ",") readElements
  obtain ⟨blank, rfl, after⟩ := reads_whitespace readBlank
  obtain ⟨_, rfl, rfl, -⟩ := Reads.string _ readClosing
  exact ⟨("[" : Text) ++ text ++ blank ++ ("]" : Text), by simp, .array repeated.listed after⟩

theorem reads_keyword {word : Text} {value : Json} (member : Value word value) :
    Reads (keyword word value) Value := by
  refine ((Reads.string word).map _).mono ?_
  intro text result reading
  obtain ⟨_, ⟨rfl, -⟩, rfl⟩ := reading
  exact member

/-- The parser of values reads values only, at any depth of brackets. -/
theorem reads_valueParser : Reads valueParser Value := by
  refine Reads.fix fun {element} reads => Reads.oneOf fun alternative member => ?_
  simp only [List.mem_cons, List.not_mem_nil, or_false] at member
  rcases member with rfl | rfl | rfl | rfl | rfl | rfl | rfl
  · exact reads_objectParser reads
  · exact reads_arrayParser reads
  · refine (reads_standardString.transform _).mono ?_
    intro text value reading
    obtain ⟨_, quoted, rfl⟩ := reading
    exact .text quoted
  · refine (reads_numberParser.transform _).mono ?_
    intro text value reading
    obtain ⟨_, numeral, rfl⟩ := reading
    exact .number numeral
  · exact reads_keyword .true
  · exact reads_keyword .false
  · exact reads_keyword .null

/-- The parser of documents leaves nothing, and reads documents only. -/
theorem document_of_parse {source rest : Text} {value : Json}
    (parsed : document.parse source = .success value rest) : rest = [] ∧ Document source value := by
  simp only [document, parse_drop, Outcome.andThen_eq_success] at parsed
  obtain ⟨inner, _, readValue, _, final, readEnd, done⟩ := parsed
  cases done
  obtain ⟨text, rfl, member⟩ := reads_token reads_valueParser readValue
  obtain ⟨rfl, rfl⟩ := parse_endOfFile_eq_success.1 readEnd
  refine ⟨rfl, ?_⟩
  rwa [List.append_nil]

end ParserAlgebra.Json
