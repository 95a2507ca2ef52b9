import ParserAlgebra.Proofs.Json.Fault

namespace ParserAlgebra.Json

open ParserAlgebra.Language ParserAlgebra.Parser Text

variable {source : Text} {reason : Failure}

/-- A value that is refused has the failure of its last alternative, at any depth of brackets. -/
theorem valueParser_failure (failed : valueParser.parse source = .failure reason) :
    reason = literalFailure "null" source := by
  rw [valueParser, parse_fix, valueBody] at failed
  have last : (keyword "null" .null).parse source = .failure reason :=
    oneOf_failure_last (List.cons_ne_nil _ _) failed
  rw [keyword, parse_map, Outcome.andThen_eq_failure] at last
  rcases last with refused | ⟨_, _, -, done⟩
  · exact (parse_string_eq_failure.1 refused).2
  · cases done

/-- A document is decoded by its value, and by what stands behind the value. -/
theorem value_decode (source : Text) :
    (decode source).value =
      match valueParser.parse (source.dropWhile isWhitespace) with
      | .success value rest =>
          if rest.dropWhile isWhitespace = [] then .ok value
          else .failure (.expected "end of file" (rest.dropWhile isWhitespace))
      | .failure _ => .failure (literalFailure "null" (source.dropWhile isWhitespace))
      | .fault fault => .fault fault := by
  have run : (decode source).value = (run source document).value := rfl
  rw [run, value_run_composed composed_document, document, parse_drop, parse_token]
  cases parsed : valueParser.parse (source.dropWhile isWhitespace) with
  | success value rest =>
      simp only [Outcome.andThen_success]
      cases rest.dropWhile isWhitespace <;> rfl
  | failure reason =>
      rw [valueParser_failure parsed]
      rfl
  | fault fault => rfl

/-- A document that is refused with a failure raises an error with this failure, and with one note if the
failure shows an end of the document. -/
theorem value_load_refused {what stand : Text} (suffix : stand <:+ source)
    (failed : (decode source).value = .failure (.expected what stand)) :
    ∃ message, (load source).value = .error (.parseError ⟨source, .expected what stand, message,
      [positionNote source (source.length - stand.length)]⟩) := by
  obtain ⟨message, described⟩ := described_expected what stand
  have shown : (Failure.expected what stand).remaining = some stand := rfl
  have placed := Failure.position_of_suffix shown suffix
  have run : (run source document).value = .failure (.expected what stand) := failed
  refine ⟨message, ?_⟩
  rw [load, value_runOrRaise, run]
  simp only [ParseError.ofFailure_placed described placed]

/-- A document that is not decoded is refused at its start or behind the value there, and its error has one note. -/
theorem decode_failure_points (source : Text) (valid : (decode source).value ≠ .fault .decimalInvalid)
    (small : (decode source).value ≠ .fault .decimalOverflow)
    (refused : ∀ value, (decode source).value ≠ .ok value) :
    let start := source.dropWhile isWhitespace
    ((decode source).value = .failure (.expected "starts with 'null'" start) ↔ Refuses valueParser start) ∧
    (∀ stand, (decode source).value = .failure (.expected "end of file" stand) ↔
      ∃ value rest, valueParser.parse start = .success value rest ∧ stand = rest.dropWhile isWhitespace) ∧
    ∃ what stand, (decode source).value = .failure (.expected what stand) ∧ stand <:+ source ∧
      (what = ("starts with 'null'" : Text) ∧ stand = start ∨
        what = ("end of file" : Text) ∧ stand ≠ [] ∧ Stops isWhitespace stand) ∧
      ∃ error, (load source).value = .error (.parseError error) ∧ error.failure = .expected what stand ∧
        error.notes = [positionNote source (source.length - stand.length)] := by
  intro start
  have apart : ("starts with 'null'" : Text) ≠ ("end of file" : Text) := by decide
  have within : start <:+ source := List.dropWhile_suffix isWhitespace
  have skipped : source.dropWhile isWhitespace = start := rfl
  have decoded := value_decode source
  rw [skipped] at decoded
  cases parsed : valueParser.parse start with
  | success value rest =>
      simp only [parsed] at decoded
      split at decoded
      · exact absurd decoded (refused value)
      · rename_i more
        have suffix : rest.dropWhile isWhitespace <:+ source :=
          (List.dropWhile_suffix isWhitespace).trans ((reads_valueParser.suffix parsed).trans within)
        obtain ⟨message, raised⟩ := value_load_refused suffix decoded
        refine ⟨?_, ?_, "end of file", _, decoded, suffix, .inr ⟨rfl, more, stops_dropWhile _ rest⟩, _, raised,
          rfl, rfl⟩
        · simp [decoded, Refuses, parsed, apart.symm]
        · intro stand
          simp [decoded, eq_comm]
  | failure reason =>
      simp only [parsed] at decoded
      have named : literalFailure "null" start = .expected "starts with 'null'" start := rfl
      rw [named] at decoded
      obtain ⟨message, raised⟩ := value_load_refused within decoded
      refine ⟨?_, ?_, "starts with 'null'", start, decoded, within, .inl ⟨rfl, rfl⟩, _, raised, rfl, rfl⟩
      · simp [decoded, Refuses, parsed]
      · intro stand
        simp [decoded, apart]
  | fault fault =>
      simp only [parsed] at decoded
      rcases (raising_of_valueParser parsed).decimal with rfl | rfl
      · exact absurd decoded valid
      · exact absurd decoded small

/-- A wrong escape in an array makes the whole document fail at its start, and a second value makes it fail
behind the first one. -/
theorem decode_failure_points_twice :
    let nested : Text := "\n[1, \"\\x\"]"
    let second : Text := "[true] \n0 "
    (∀ source ∈ [nested, second], (decode source).value ≠ .fault .decimalInvalid ∧
      (decode source).value ≠ .fault .decimalOverflow ∧ ∀ value, (decode source).value ≠ .ok value) ∧
    (Refuses valueParser "[1, \"\\x\"]" ∧ ∃ error, (load nested).value = .error (.parseError error) ∧
      error.failure = .expected "starts with 'null'" "[1, \"\\x\"]" ∧ error.notes = [positionNote nested 1]) ∧
    ∃ error, (load second).value = .error (.parseError error) ∧
      error.failure = .expected "end of file" "0 " ∧ error.notes = [positionNote second 8] := by
  intro nested second
  have inside : (decode nested).value = .failure (.expected "starts with 'null'" "[1, \"\\x\"]") := by
    with_unfolding_all rfl
  have behind : (decode second).value = .failure (.expected "end of file" "0 ") := by with_unfolding_all rfl
  have pointsInside := decode_failure_points nested (by simp [inside]) (by simp [inside]) (by simp [inside])
  have pointsBehind := decode_failure_points second (by simp [behind]) (by simp [behind]) (by simp [behind])
  refine ⟨by simp [inside, behind], ⟨pointsInside.1.1 inside, ?_⟩, ?_⟩
  · obtain ⟨_, _, failed, -, -, error, raised, same, note⟩ := pointsInside.2.2
    cases inside.symm.trans failed
    exact ⟨error, raised, same, note⟩
  · obtain ⟨_, _, failed, -, -, error, raised, same, note⟩ := pointsBehind.2.2
    cases behind.symm.trans failed
    exact ⟨error, raised, same, note⟩

end ParserAlgebra.Json
