import ParserAlgebra.Proofs.Json.Grammar

namespace ParserAlgebra.Json

open ParserAlgebra.Language ParserAlgebra.Parser Text

variable {bound : Nat} {element : Parser Json} {text rest : Text} {value : Json}

theorem whitespace_disjoint : ∀ point, isWhitespace point = true → isNumberPart point = false :=
  disjoint_of_members (by decide)

/-- Whitespace may stand behind a value. -/
theorem stops_blank {blank : Text} (run : Run isWhitespace blank) (stops : Stops isNumberPart rest) :
    Stops isNumberPart (blank ++ rest) :=
  run.stops_append whitespace_disjoint stops

theorem Value.apart (member : Value text value) : Apart isWhitespace text := by
  cases member with
  | object listed collected after =>
      have opening : Apart isWhitespace ("\x7b" : Text) := by decide
      exact ((opening.append _).append _).append _
  | array listed after =>
      have opening : Apart isWhitespace ("[" : Text) := by decide
      exact ((opening.append _).append _).append _
  | text quoted => exact quoted.apart (by decide)
  | number numeral => exact numeral.apart (by decide) (by decide)
  | true => decide
  | false => decide
  | null => decide

/-- No value begins with a closing bracket. -/
theorem refuses_valueBody_closing (element : Parser Json) (rest : Text) :
    Refuses (valueBody element) (("]" : Text) ++ rest) := by
  refine Refuses.oneOf fun alternative member => ?_
  simp only [List.mem_cons, List.not_mem_nil, or_false] at member
  rcases member with rfl | rfl | rfl | rfl | rfl | rfl | rfl
  all_goals exact ⟨_, rfl⟩

theorem refuses_below {bound : Nat} (shorter : (("]" : Text) ++ rest).length < bound) :
    Refuses ((fix valueBody).below bound) (("]" : Text) ++ rest) := by
  rw [Refuses, parse_below, if_pos shorter, parse_fix]
  exact refuses_valueBody_closing _ rest

theorem stops_bracket (rest : Text) : Stops isWhitespace (("]" : Text) ++ rest) :=
  Stops.append (by decide) (by decide)

theorem closes_array (rest : Text) :
    Closes bound (token ((fix valueBody).below bound)) (Stops isNumberPart) (("]" : Text) ++ rest) where
  stops := stops_bracket rest
  noComma := ⟨_, rfl⟩
  follows := fun run => stops_blank run (Stops.append (by decide) (by decide))
  noItem := by
    intro blank run inside
    apply refuses_token
    rw [run.dropWhile_append (stops_bracket rest)]
    apply refuses_below
    simp only [List.length_append] at inside ⊢
    omega

theorem accepts_element (accepts : AcceptsBelow bound element Value (Stops isNumberPart)) :
    AcceptsTrimmed bound (token element) (Padded isWhitespace Value) (Stops isNumberPart) :=
  accepts_token accepts Value.apart stops_blank

theorem parse_arrayParser {blank : Text} {elements : List Json}
    (accepts : AcceptsBelow bound ((fix valueBody).below bound) Value (Stops isNumberPart))
    (listed : Listed (Padded isWhitespace Value) text elements) (after : Run isWhitespace blank)
    (inside : (text ++ (blank ++ (("]" : Text) ++ rest))).length < bound) :
    (arrayParser ((fix valueBody).below bound)).parse
        (("[" : Text) ++ (text ++ (blank ++ (("]" : Text) ++ rest)))) = .success elements rest := by
  obtain ⟨left, run, readElements⟩ := parse_many_commas (accepts_element accepts)
    (fun rest => Stops.append (by decide) (by decide)) (closes_array rest) (listed_iff_repeated.1 listed)
    after inside
  have readOpening := parse_string_append "[" (text ++ (blank ++ (("]" : Text) ++ rest)))
  have readBlank := parse_whitespace_run run (stops_bracket rest)
  have readClosing := parse_string_append "]" rest
  simp only [arrayParser, parse_keep, parse_drop, parse_succeed, Outcome.andThen_success, readOpening,
    readElements, readBlank, readClosing]

theorem stops_brace (rest : Text) : Stops isWhitespace (("\x7d" : Text) ++ rest) :=
  Stops.append (by decide) (by decide)

/-- A key is read up to the colon behind it. -/
theorem parse_memberHead_append {name key : Text} (named : Padded isWhitespace StringText name key) (rest : Text) :
    memberHead.parse (name ++ ((":" : Text) ++ rest)) = .success (fun value => (key, value)) rest := by
  obtain ⟨before, quoted, after⟩ := named
  rename_i left name right
  have colon : Stops isWhitespace ((":" : Text) ++ rest) := Stops.append (by decide) (by decide)
  have readLeft := parse_whitespace_run before
    ((quoted.apart (by decide)).stops_append (right ++ ((":" : Text) ++ rest)))
  have readKey := parse_standardString_append quoted (right ++ ((":" : Text) ++ rest))
  have readRight := parse_whitespace_run after colon
  have readColon := parse_string_append ":" rest
  simp only [memberHead, parse_keep, parse_drop, parse_succeed, Outcome.andThen_success,
    List.append_assoc, readLeft, readKey, readRight, readColon]

theorem accepts_memberParser (accepts : AcceptsBelow bound element Value (Stops isNumberPart)) :
    AcceptsTrimmed bound (memberParser element) (Member Value) (Stops isNumberPart) := by
  rintro source pair rest inside ⟨named, here⟩ follows
  rename_i name text key inner
  simp only [List.append_assoc, List.length_append] at inside
  have readInner : (token element).parse (text ++ rest) = .success inner (rest.dropWhile isWhitespace) :=
    accepts_element accepts (by simp only [List.length_append]; omega) here follows
  rw [List.append_assoc, List.append_assoc, parse_memberParser, parse_memberHead_append named, Outcome.andThen_success,
    readInner]
  rfl

theorem closes_object (rest : Text) :
    Closes bound (memberParser element) (Stops isNumberPart) (("\x7d" : Text) ++ rest) where
  stops := stops_brace rest
  noComma := ⟨_, rfl⟩
  follows := fun run => stops_blank run (Stops.append (by decide) (by decide))
  noItem := by
    intro blank run inside
    have readBlank := parse_whitespace_run run (stops_brace rest)
    have noKey : Refuses standardString (("\x7d" : Text) ++ rest) := ⟨_, rfl⟩
    obtain ⟨reason, failed⟩ := noKey
    refine ⟨reason, ?_⟩
    simp only [memberParser, parse_keep, parse_drop, parse_succeed, Outcome.andThen_success, readBlank, failed,
      Outcome.andThen_failure]

theorem parse_objectParser {blank : Text} {pairs members : List (Text × Json)}
    (accepts : AcceptsBelow bound element Value (Stops isNumberPart))
    (listed : Listed (Member Value) text pairs) (collected : Association.Collects pairs members)
    (after : Run isWhitespace blank)
    (inside : (text ++ (blank ++ (("\x7d" : Text) ++ rest))).length < bound) :
    (objectParser element).parse
        (("\x7b" : Text) ++ (text ++ (blank ++ (("\x7d" : Text) ++ rest)))) = .success members rest := by
  obtain ⟨left, run, readMembers⟩ := parse_many_commas (accepts_memberParser accepts)
    (fun rest => Stops.append (by decide) (by decide)) (closes_object rest) (listed_iff_repeated.1 listed)
    after inside
  have readOpening := parse_string_append "\x7b" (text ++ (blank ++ (("\x7d" : Text) ++ rest)))
  have readBlank := parse_whitespace_run run (stops_brace rest)
  have readClosing := parse_string_append "\x7d" rest
  simp only [objectParser, parse_keep, parse_drop, parse_succeed, Outcome.andThen_success, readOpening,
    readMembers, readBlank, readClosing, Association.ofPairs_eq_iff.2 collected]

theorem refuses_objectParser {source : Text} (element : Parser Json)
    (noOpening : Refuses (string "\x7b") source) : Refuses ((objectParser element).transform object) source := by
  obtain ⟨reason, failed⟩ := noOpening
  exact ⟨reason, by simp [objectParser, failed]⟩

theorem refuses_arrayParser {source : Text} (element : Parser Json)
    (noOpening : Refuses (string "[") source) : Refuses ((arrayParser element).transform array) source := by
  obtain ⟨reason, failed⟩ := noOpening
  exact ⟨reason, by simp [arrayParser, failed]⟩

theorem refuses_standardString {source : Text} (noQuote : Refuses (string standardQuote) source) :
    Refuses standardString source := by
  obtain ⟨reason, failed⟩ := noQuote
  exact ⟨reason, by simp [parse_standardString, failed]⟩

/-- The choice passes over the alternatives with brackets and quotes. -/
theorem parse_valueBody_bare {source : Text} (stops : Stops ("\x7b[\"" : Text).contains source) :
    (valueBody element).parse source =
      (oneOf [numberParser.transform number, keyword "true" (boolean true), keyword "false" (boolean false),
        keyword "null" null]).parse source := by
  have noObject := refuses_objectParser element (refuses_string_stops (by decide) stops)
  have noArray := refuses_arrayParser element (refuses_string_stops (by decide) stops)
  have noString := refuses_standardString (refuses_string_stops (by decide) stops)
  rw [valueBody, noObject.parse_oneOf, noArray.parse_oneOf, (noString.transform text).parse_oneOf]

theorem parse_keyword_append (word : Text) (value : Json) (rest : Text) :
    (keyword word value).parse (word ++ rest) = .success value rest := by
  simp [keyword, parse_string_append]

/-- The parser of values accepts every value, wherever it does not run into a number. -/
theorem accepts_valueParser (bound : Nat) :
    AcceptsBelow bound valueParser Value (Stops isNumberPart) := by
  refine accepts_fix ?_ bound
  intro bound accepts source value rest inside member follows
  -- No alternative in front of the right one commits: each refuses the first code point.
  cases member with
  | @object text blank pairs members listed collected after =>
      simp only [List.append_assoc] at inside ⊢
      have opening : 0 < ("\x7b" : Text).length := by decide
      apply parse_oneOf_first
      rw [parse_transform, parse_objectParser accepts listed collected after ?_]
      · rfl
      · simp only [List.length_append] at inside ⊢
        omega
  | @array text blank elements listed after =>
      simp only [List.append_assoc] at inside ⊢
      have opening : 0 < ("[" : Text).length := by decide
      have noObject : Refuses (string "\x7b") (("[" : Text) ++ (text ++ (blank ++ (("]" : Text) ++ rest)))) :=
        ⟨_, rfl⟩
      rw [valueBody, (refuses_objectParser _ noObject).parse_oneOf]
      apply parse_oneOf_first
      rw [parse_transform, parse_arrayParser accepts listed after ?_]
      · rfl
      · simp only [List.length_append] at inside ⊢
        omega
  | text quoted =>
      have stops := (quoted.apart (by decide) : Apart ("\x7b[" : Text).contains source).stops_append rest
      have noObject := refuses_objectParser ((fix valueBody).below bound) (refuses_string_stops (by decide) stops)
      have noArray := refuses_arrayParser ((fix valueBody).below bound) (refuses_string_stops (by decide) stops)
      rw [valueBody, noObject.parse_oneOf, noArray.parse_oneOf]
      apply parse_oneOf_first
      rw [parse_transform, parse_standardString_append quoted]
      rfl
  | number numeral =>
      have apart : Apart ("\x7b[\"" : Text).contains source := numeral.apart (by decide) (by decide)
      rw [parse_valueBody_bare (apart.stops_append rest)]
      apply parse_oneOf_first
      rw [parse_transform, parse_numberParser_append numeral follows]
      rfl
  | true =>
      have noNumber : Refuses numberParser (("true" : Text) ++ rest) := ⟨_, rfl⟩
      rw [parse_valueBody_bare (Stops.append (by decide) (by decide)), (noNumber.transform number).parse_oneOf]
      exact parse_oneOf_first _ (parse_keyword_append _ _ rest)
  | false =>
      have noNumber : Refuses numberParser (("false" : Text) ++ rest) := ⟨_, rfl⟩
      have noTrue : Refuses (keyword "true" (boolean true)) (("false" : Text) ++ rest) := ⟨_, rfl⟩
      rw [parse_valueBody_bare (Stops.append (by decide) (by decide)), (noNumber.transform number).parse_oneOf,
        noTrue.parse_oneOf]
      exact parse_oneOf_first _ (parse_keyword_append _ _ rest)
  | null =>
      have noNumber : Refuses numberParser (("null" : Text) ++ rest) := ⟨_, rfl⟩
      have noTrue : Refuses (keyword "true" (boolean true)) (("null" : Text) ++ rest) := ⟨_, rfl⟩
      have noFalse : Refuses (keyword "false" (boolean false)) (("null" : Text) ++ rest) := ⟨_, rfl⟩
      rw [parse_valueBody_bare (Stops.append (by decide) (by decide)), (noNumber.transform number).parse_oneOf,
        noTrue.parse_oneOf, noFalse.parse_oneOf]
      exact parse_keyword_append _ _ rest

theorem parse_document {source : Text} (member : Document source value) :
    document.parse source = .success value [] := by
  have accepts : AcceptsTrimmed (source.length + 1) (token valueParser) Document (Stops isNumberPart) :=
    accepts_token (accepts_valueParser _) Value.apart stops_blank
  have readValue : (token valueParser).parse (source ++ []) = .success value [] :=
    accepts (by simp) member stops_nil
  rw [List.append_nil] at readValue
  rw [document, parse_drop, readValue]
  rfl

/-- A text is decoded exactly if it is a document, and the decoded value is what the text means. -/
theorem decode_eq_ok_iff {source : Text} {value : Json} :
    (decode source).value = .ok value ↔ Document source value := by
  have run : (decode source).value = (run source document).value := rfl
  rw [run, value_run]
  constructor
  · intro decoded
    split at decoded
    · rename_i parsed
      cases decoded
      exact (document_of_parse parsed).2
    · split at decoded <;> cases decoded
    · cases decoded
  · intro member
    rw [parse_document member]

end ParserAlgebra.Json
