import ParserAlgebra.Proofs.Parser.Fault

namespace ParserAlgebra.Parser

open Text

variable {quote escape point : CodePoint} {escapes : EscapeTable} {source text rest meaning : Text}

/-- This function reads a numbered escape behind its escape mark, and gives the code point and the rest. -/
def scanNumbered : Text → Option (Text × Text)
  | [] => none
  | mark :: rest =>
      let digits := rest.take 4
      if mark = CodePoint.scalar 'u' ∧ digits.length = 4 ∧ Run ("0123456789ABCDEFabcdef" : Text).contains digits then
        some ([CodePoint.ofNat (hexadecimalPositionalValue digits)], rest.drop 4)
      else none

/-- This function reads an escape behind its mark by the first key that fits, and as a numbered one if none does. -/
def scanEscape (escapes : EscapeTable) (source : Text) : Option (Text × Text) :=
  match escapes.find? fun entry => entry.1.isPrefixOf source with
  | some entry => some (entry.2, source.drop entry.1.length)
  | none => scanNumbered source

/-- This function reads one unit of a string, which is an escape or any code point but the quote. -/
def scanUnit (quote escape : CodePoint) (escapes : EscapeTable) : Text → Option (Text × Text)
  | [] => none
  | point :: rest =>
      if point = escape then scanEscape escapes rest
      else if point = quote then none
      else some ([point], rest)

theorem scanEscape_length_le (scanned : scanEscape escapes source = some (meaning, rest)) :
    rest.length ≤ source.length := by
  unfold scanEscape at scanned
  split at scanned
  · cases scanned
    simp
  · cases source with
    | nil => cases scanned
    | cons mark others =>
        simp only [scanNumbered] at scanned
        split at scanned <;> cases scanned
        simp only [List.length_drop, List.length_cons]
        omega

/-- Each unit takes a code point at least. -/
theorem scanUnit_length_lt (scanned : scanUnit quote escape escapes source = some (meaning, rest)) :
    rest.length < source.length := by
  cases source with
  | nil => cases scanned
  | cons point others =>
      simp only [scanUnit] at scanned
      split at scanned
      · have inside := scanEscape_length_le scanned
        simp only [List.length_cons]
        omega
      · split at scanned <;> cases scanned
        simp

/-- This function reads units as long as there are any, and gives their meanings and the text at which it stops. -/
def scan (quote escape : CodePoint) (escapes : EscapeTable) (source : Text) : Text × Text :=
  match _ : scanUnit quote escape escapes source with
  | none => ([], source)
  | some (meaning, rest) =>
      (meaning ++ (scan quote escape escapes rest).1, (scan quote escape escapes rest).2)
termination_by source.length
decreasing_by all_goals exact scanUnit_length_lt (by assumption)

/-- The failure of a text that does not start with the quote. -/
def missingQuote (quote : CodePoint) (source : Text) : Failure :=
  .expected (Text.concat ["starts with '", [quote], "'"]) source

/-- This function reads a quoted string in one pass. -/
def scanQuoted (quote escape : CodePoint) (escapes : EscapeTable) : Text → Outcome Text
  | [] => .failure (missingQuote quote [])
  | point :: rest =>
      if point = quote then
        let content := scan quote escape escapes rest
        match content.2 with
        | [] => .failure (missingQuote quote [])
        | stop :: behind =>
            if stop = quote then .success content.1 behind
            else .failure (missingQuote quote (stop :: behind))
      else .failure (missingQuote quote (point :: rest))

theorem scan_of_none (scanned : scanUnit quote escape escapes source = none) :
    scan quote escape escapes source = ([], source) := by
  rw [scan]
  split
  · rfl
  · rename_i again
    rw [scanned] at again
    cases again

theorem scan_of_some (scanned : scanUnit quote escape escapes source = some (meaning, rest)) :
    scan quote escape escapes source =
      (meaning ++ (scan quote escape escapes rest).1, (scan quote escape escapes rest).2) := by
  rw [scan]
  split
  · rename_i again
    rw [scanned] at again
    cases again
  · rename_i again
    rw [scanned] at again
    cases again
    rfl

theorem isPlain_iff : isPlain [quote] [escape] point = true ↔ point ≠ quote ∧ point ≠ escape := by
  simp [isPlain]

/-- A run of plain code points stands for itself in front of what is scanned behind it. -/
theorem scan_append (run : Run (isPlain [quote] [escape]) text) (rest : Text) :
    scan quote escape escapes (text ++ rest) =
      (text ++ (scan quote escape escapes rest).1, (scan quote escape escapes rest).2) := by
  induction text with
  | nil => rfl
  | cons point points inductionHypothesis =>
      obtain ⟨plain, run⟩ := run_cons.1 run
      obtain ⟨noQuote, noEscape⟩ := isPlain_iff.1 plain
      have scanned : scanUnit quote escape escapes (point :: points ++ rest) =
          some ([point], points ++ rest) := by
        simp [scanUnit, noQuote, noEscape]
      rw [scan_of_some scanned, inductionHypothesis run]
      rfl

/-- An outcome agrees with what a scanner finds: a success with the same meaning and the same rest, or a
failure if it finds nothing. -/
def Agrees (outcome : Outcome Text) : Option (Text × Text) → Prop
  | none => ∃ reason, outcome = .failure reason
  | some (meaning, rest) => outcome = .success meaning rest

/-- A numbered escape is told from other texts by its mark and its four digits. -/
theorem agrees_unicodeEscape (source : Text) :
    Agrees (unicodeEscape.parse source) (scanNumbered source) := by
  cases source with
  | nil => exact ⟨_, rfl⟩
  | cons mark rest =>
      simp only [scanNumbered]
      split
      · rename_i numbered
        obtain ⟨rfl, four, run⟩ := numbered
        have read := parse_unicodeEscape four run (toNat_ofNat_hexadecimal four run) (rest.drop 4)
        rw [List.take_append_drop] at read
        exact read
      · rename_i other
        cases parsed : unicodeEscape.parse (mark :: rest) with
        | success value behind =>
            obtain ⟨_, shape, digits, rfl, four, run, -⟩ := reads_unicodeEscape parsed
            have letter : mark = CodePoint.scalar 'u' := (List.cons.inj shape).1
            have behindLetter : rest = digits ++ behind := (List.cons.inj shape).2
            have front : rest.take 4 = digits := by rw [behindLetter, List.take_left' four]
            exact absurd ⟨letter, by rwa [front], by rwa [front]⟩ other
        | failure reason => exact ⟨reason, rfl⟩
        | fault reason => exact (steady_unicodeEscape parsed).elim

/-- A choice goes on behind an alternative that refuses the source, if there are others. -/
theorem parse_oneOf_others {α : Type} {first : Parser α} {others : List (Parser α)} (more : others ≠ [])
    (refuses : Refuses first source) :
    (oneOf (first :: others)).parse source = (oneOf others).parse source := by
  cases others with
  | nil => exact absurd rfl more
  | cons second others => exact refuses.parse_oneOf

/-- The keys are tried in the order of the table, and the numbered escape last. -/
theorem agrees_escapes (escapes : EscapeTable) (source : Text) :
    Agrees ((oneOf ((escapes.map fun entry => (string entry.1).map fun _ => entry.2) ++
      [unicodeEscape])).parse source) (scanEscape escapes source) := by
  induction escapes with
  | nil => exact agrees_unicodeEscape source
  | cons entry escapes inductionHypothesis =>
      by_cases starts : entry.1 <+: source
      · have found : scanEscape (entry :: escapes) source = some (entry.2, source.drop entry.1.length) := by
          simp [scanEscape, starts]
        obtain ⟨behind, rfl⟩ := starts
        rw [found, List.drop_left]
        apply parse_oneOf_first
        simp [parse_string_append]
      · have passed : scanEscape (entry :: escapes) source = scanEscape escapes source := by
          simp [scanEscape, starts]
        have refuses : Refuses ((string entry.1).map fun _ => entry.2) source :=
          (refuses_string starts).transform _
        rw [passed, List.map_cons, List.cons_append, parse_oneOf_others (by simp) refuses]
        exact inductionHypothesis

theorem parse_string_single (point head : CodePoint) (rest : Text) :
    (string [point]).parse (head :: rest) =
      if head = point then .success [point] rest else .failure (missingQuote point (head :: rest)) := by
  by_cases same : head = point
  · rw [if_pos same, same]
    exact parse_string_append [point] rest
  · simp [parse_string, same, Ne.symm same]
    rfl

theorem refuses_escapeSequence_single (escapes : EscapeTable) (different : point ≠ escape) :
    Refuses (escapeSequence escapes [escape]) (point :: rest) := by
  apply refuses_escapeSequence
  rintro ⟨tail, shape⟩
  exact different (List.cons.inj shape).1.symm

theorem agrees_escapeSequence (escapes : EscapeTable) (escape : CodePoint) (rest : Text) :
    Agrees ((escapeSequence escapes [escape]).parse (escape :: rest)) (scanEscape escapes rest) := by
  have agrees := agrees_escapes escapes rest
  simp only [escapeSequence, parse_keep, parse_drop, parse_succeed, Outcome.andThen_success,
    parse_string_single, if_true]
  cases found : scanEscape escapes rest with
  | none =>
      rw [found] at agrees
      obtain ⟨reason, failed⟩ := agrees
      exact ⟨reason, by rw [failed]; rfl⟩
  | some unit =>
      rw [found] at agrees
      obtain ⟨meaning, behind⟩ := unit
      have read : _ = Outcome.success meaning behind := agrees
      simp only [Agrees, read, Outcome.andThen_success]

/-- This parser reads an escape, or as many code points as stand for themselves. -/
def scannedPiece (quote escape : CodePoint) (escapes : EscapeTable) : Parser Text :=
  oneOf [escapeSequence escapes [escape], takeIfAndWhile (isPlain [quote] [escape])]

/-- Where the scanner finds no unit, no piece is read. -/
theorem refuses_scannedPiece (scanned : scanUnit quote escape escapes source = none) :
    Refuses (scannedPiece quote escape escapes) source := by
  cases source with
  | nil => exact ⟨_, rfl⟩
  | cons point rest =>
      have noEscape : Refuses (escapeSequence escapes [escape]) (point :: rest) := by
        by_cases mark : point = escape
        · subst mark
          have agrees := agrees_escapeSequence escapes point rest
          rw [show scanEscape escapes rest = none by simpa [scanUnit] using scanned] at agrees
          exact agrees
        · exact refuses_escapeSequence_single escapes mark
      have noPlain : Stops (isPlain [quote] [escape]) (point :: rest) := by
        rw [stops_cons, Bool.eq_false_iff, ne_eq, isPlain_iff]
        rintro ⟨noQuote, noMark⟩
        simp [scanUnit, noQuote, noMark] at scanned
      obtain ⟨reason, failed⟩ := refuses_takeIfAndWhile noPlain
      exact ⟨reason, by rw [scannedPiece, noEscape.parse_oneOf]; exact failed⟩

/-- A piece that starts with a plain code point is the longest run of them. -/
theorem scannedPiece_of_plain (noQuote : point ≠ quote) (noEscape : point ≠ escape) (others : Text) :
    ∃ chunk rest, point :: others = chunk ++ rest ∧ chunk ≠ [] ∧ Run (isPlain [quote] [escape]) chunk ∧
      (scannedPiece quote escape escapes).parse (point :: others) = .success chunk rest := by
  let chunk := (point :: others).takeWhile (isPlain [quote] [escape])
  let rest := (point :: others).dropWhile (isPlain [quote] [escape])
  have refuses : Refuses (escapeSequence escapes [escape]) (point :: others) :=
    refuses_escapeSequence_single escapes noEscape
  have plain : isPlain [quote] [escape] point = true := isPlain_iff.2 ⟨noQuote, noEscape⟩
  have shape : point :: others = chunk ++ rest := List.takeWhile_append_dropWhile.symm
  have run : Run (isPlain [quote] [escape]) chunk := run_takeWhile _ _
  have nonempty : chunk ≠ [] := by simp [chunk, plain]
  have read : (takeIfAndWhile (isPlain [quote] [escape])).parse (chunk ++ rest) = .success chunk rest :=
    parse_takeIfAndWhile_run run nonempty (stops_dropWhile _ _)
  refine ⟨chunk, rest, shape, nonempty, run, ?_⟩
  rw [scannedPiece, refuses.parse_oneOf, shape]
  exact read

/-- A piece consists of one unit or more, makes the text shorter, and the scan goes on behind it. -/
theorem scannedPiece_of_unit {unit : Text × Text}
    (scanned : scanUnit quote escape escapes source = some unit) :
    ∃ meaning rest, (scannedPiece quote escape escapes).parse source = .success meaning rest ∧
      rest.length < source.length ∧ scan quote escape escapes source =
        (meaning ++ (scan quote escape escapes rest).1, (scan quote escape escapes rest).2) := by
  cases source with
  | nil => cases scanned
  | cons point others =>
      by_cases mark : point = escape
      · subst mark
        obtain ⟨meaning, rest⟩ := unit
        have agrees := agrees_escapeSequence escapes point others
        rw [show scanEscape escapes others = some (meaning, rest) by simpa [scanUnit] using scanned] at agrees
        exact ⟨meaning, rest, parse_oneOf_first _ agrees, scanUnit_length_lt scanned, scan_of_some scanned⟩
      · have noQuote : point ≠ quote := by
          rintro rfl
          simp [scanUnit, mark] at scanned
        obtain ⟨chunk, rest, shape, nonempty, run, read⟩ := scannedPiece_of_plain noQuote mark others
        have positive : 0 < chunk.length := List.length_pos_iff.2 nonempty
        refine ⟨chunk, rest, read, ?_, ?_⟩
        · rw [shape, List.length_append]
          omega
        · rw [shape]
          exact scan_append run rest

/-- The repetition reads pieces up to the text at which the scan stops, and they make up what was
scanned. -/
theorem parse_many_scannedPiece (quote escape : CodePoint) (escapes : EscapeTable) (source : Text) :
    ∃ pieces, (many (scannedPiece quote escape escapes) (succeed ())).parse source =
        .success pieces (scan quote escape escapes source).2 ∧
      pieces.flatten = (scan quote escape escapes source).1 := by
  induction bound : source.length using Nat.strongRecOn generalizing source with
  | ind bound inductionHypothesis =>
      subst bound
      cases scanned : scanUnit quote escape escapes source with
      | none =>
          rw [scan_of_none scanned]
          exact ⟨[], (refuses_scannedPiece scanned).parse_many _, rfl⟩
      | some unit =>
          obtain ⟨meaning, rest, read, shorter, goesOn⟩ := scannedPiece_of_unit scanned
          obtain ⟨pieces, others, equal⟩ := inductionHypothesis rest.length shorter rest rfl
          have single : ((scannedPiece quote escape escapes).drop (succeed ())).parse source =
              .success meaning rest := by
            simp [read]
          rw [goesOn]
          exact ⟨meaning :: pieces, parse_many_cons single shorter others, by rw [List.flatten_cons, equal]⟩

/-- A quote that escapes itself is written twice, and a lone quote ends the string. -/
example :
    scanQuoted (CodePoint.scalar '"') (CodePoint.scalar '"') [("\"", "\"")] "\"a\"\"b\"c" =
      .success "a\"b" "c" := by
  decide +kernel

end ParserAlgebra.Parser
