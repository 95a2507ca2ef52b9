import ParserAlgebra.ParseError
import ParserAlgebra.Proofs.Text.Numeral

namespace ParserAlgebra

open Text

/-- This test accepts the code points within a line. -/
def inLine (point : CodePoint) : Bool :=
  !Location.isNewline point

namespace Text

variable {text front back : Text}

/-- The lines of a text, without the newlines between them. -/
def lines (text : Text) : List Text :=
  text.splitOnP Location.isNewline

theorem lines_of_run (run : Run inLine text) : text.lines = [text] := by
  refine List.splitOnP_eq_singleton fun point member => ?_
  simpa [inLine] using run point member

theorem lines_newline (before after : Text) {mark : CodePoint} (newline : Location.isNewline mark = true) :
    lines (before ++ mark :: after) = before.lines ++ after.lines :=
  List.splitOnP_append_cons before after newline

/-- There is one line more than there are newlines. -/
theorem length_lines (text : Text) : text.lines.length = text.countP Location.isNewline + 1 := by
  induction text with
  | nil => rfl
  | cons point points inductionHypothesis =>
      simp only [lines] at inductionHypothesis ⊢
      rw [List.splitOnP_cons_eq_if_modifyHead]
      split
      · rename_i newline
        rw [List.length_cons, inductionHypothesis, List.countP_cons_of_pos newline]
      · rename_i other
        rw [List.length_modifyHead, inductionHypothesis, List.countP_cons_of_neg other]

/-- This function adds up the lengths of lines, each with the newline behind it. -/
def linesLength : List Text → Nat
  | [] => 0
  | line :: lines => line.length + 1 + linesLength lines

@[simp] theorem linesLength_nil : linesLength [] = 0 := rfl

@[simp] theorem linesLength_cons (line : Text) (lines : List Text) :
    linesLength (line :: lines) = line.length + 1 + linesLength lines := rfl

@[simp] theorem linesLength_append (above below : List Text) :
    linesLength (above ++ below) = linesLength above + linesLength below := by
  induction above with
  | nil => simp
  | cons line above inductionHypothesis => simp [inductionHypothesis, Nat.add_assoc]

/-- The last line of a text has no newline behind it. -/
theorem linesLength_lines (text : Text) : linesLength text.lines = text.length + 1 := by
  induction text with
  | nil => rfl
  | cons point points inductionHypothesis =>
      simp only [lines] at inductionHypothesis ⊢
      rw [List.splitOnP_cons_eq_if_modifyHead]
      split
      · simp [inductionHypothesis, Nat.add_comm]
      -- A code point that is no newline goes into the first line of the others.
      · obtain ⟨first, others, shape⟩ := List.exists_cons_of_ne_nil
          (List.splitOnP_ne_nil Location.isNewline points)
        rw [shape] at inductionHypothesis ⊢
        simp only [List.modifyHead_cons, linesLength_cons, List.length_cons] at inductionHypothesis ⊢
        omega

theorem isNewline_of_stops {mark : CodePoint} (stops : Stops inLine (mark :: back)) :
    Location.isNewline mark = true := by
  simpa [inLine] using stops

/-- The lines in front of the start of a line are whole. -/
theorem lines_behind (opens : Stops inLine front.reverse) (rest : Text) :
    ∃ above, lines (front ++ rest) = above ++ rest.lines ∧ linesLength above = front.length ∧
      above.length = front.countP Location.isNewline := by
  cases mirrored : front.reverse with
  | nil =>
      obtain rfl := List.reverse_eq_nil_iff.1 mirrored
      exact ⟨[], rfl, rfl, rfl⟩
  | cons mark points =>
      rw [mirrored] at opens
      have newline := isNewline_of_stops opens
      obtain rfl : front = points.reverse ++ [mark] := by simpa using congrArg List.reverse mirrored
      refine ⟨lines points.reverse, ?_, ?_, ?_⟩
      · rw [List.append_assoc]
        exact lines_newline points.reverse rest newline
      · rw [linesLength_lines, List.length_append, List.length_singleton]
      · rw [length_lines, List.countP_append, List.countP_singleton, if_pos newline]

theorem lines_front (run : Run inLine text) (closes : Stops inLine back) :
    ∃ below, lines (text ++ back) = text :: below := by
  cases back with
  | nil => exact ⟨[], by rw [List.append_nil, lines_of_run run]⟩
  | cons mark after =>
      rw [lines_newline text after (isNewline_of_stops closes), lines_of_run run]
      exact ⟨lines after, rfl⟩

/-- Every text is cut at the start of its last line. -/
theorem exists_lastLine (text : Text) :
    ∃ front left, text = front ++ left ∧ Stops inLine front.reverse ∧ Run inLine left := by
  -- The last line is the longest run at the end.
  refine ⟨(text.reverse.dropWhile inLine).reverse, (text.reverse.takeWhile inLine).reverse, ?_, ?_, ?_⟩
  · rw [← List.reverse_append, List.takeWhile_append_dropWhile, List.reverse_reverse]
  · rw [List.reverse_reverse]
    exact stops_dropWhile inLine text.reverse
  · exact (run_takeWhile inLine text.reverse).reverse

end Text

variable {source left right : Text} {position : Nat}

/-- A position stands between the two parts of a line, which goes from a newline to a newline or to the ends of the
source. -/
inductive LineAround : Text → Nat → Text → Text → Prop where
  | around {front left right back : Text} (opens : Stops inLine front.reverse) (before : Run inLine left)
      (behind : Run inLine right) (closes : Stops inLine back) :
      LineAround (front ++ left ++ (right ++ back)) (front ++ left).length left right

/-- Every position of a source has a line around it. -/
theorem exists_lineAround (inside : position ≤ source.length) :
    ∃ left right, LineAround source position left right := by
  obtain ⟨front, left, taken, opens, before⟩ := exists_lastLine (source.take position)
  have around := LineAround.around opens before (run_takeWhile inLine (source.drop position))
    (stops_dropWhile inLine (source.drop position))
  rw [List.takeWhile_append_dropWhile, ← taken, List.take_append_drop, List.length_take,
    Nat.min_eq_left inside] at around
  exact ⟨_, _, around⟩

namespace LineAround

/-- The line of a position starts where its left part does. -/
theorem lineStart_add (around : LineAround source position left right) :
    Location.lineStart source position + left.length = position := by
  obtain ⟨opens, before, behind, closes⟩ := around
  rename_i front back
  have taken : ((front ++ left).reverse.takeWhile inLine).length = left.length := by
    rw [List.reverse_append, before.reverse.takeWhile_append opens, List.length_reverse]
  have start : Location.lineStart (front ++ left ++ (right ++ back)) (front ++ left).length =
      (front ++ left).length - left.length := by
    simp only [Location.lineStart, List.take_left]
    exact congrArg ((front ++ left).length - ·) taken
  rw [start, List.length_append, Nat.add_sub_cancel]

/-- The lines above a position give its line, and the left part of the line gives its column. -/
theorem locate (around : LineAround source position left right) :
    ∃ above below, source.lines = above ++ (left ++ right) :: below ∧
      linesLength above + left.length = position ∧
      Location.locate source position = ⟨above.length + 1, left.length + 1⟩ := by
  have start := Nat.sub_eq_of_eq_add' around.lineStart_add.symm
  obtain ⟨opens, before, behind, closes⟩ := around
  rename_i front back
  obtain ⟨above, linesAbove, lengthAbove, countAbove⟩ := lines_behind opens (left ++ right ++ back)
  obtain ⟨below, linesBelow⟩ := lines_front (run_append.2 ⟨before, behind⟩) closes
  have none : left.countP Location.isNewline = 0 := by
    refine List.countP_eq_zero.2 fun point member => ?_
    simpa [inLine] using before point member
  refine ⟨above, below, ?_, ?_, ?_⟩
  · rw [← linesBelow, ← linesAbove, List.append_assoc, List.append_assoc]
  · rw [lengthAbove, List.length_append]
  · simp only [Location.locate, List.take_left, List.countP_append, none, countAbove, start, Nat.add_zero]

end LineAround

attribute [ext] Location

namespace Location

/-- This function gives the offset of a location: the lines above it with their newlines, and the code points
in front of its column. -/
def offset (source : Text) (location : Location) : Nat :=
  linesLength (source.lines.take (location.line - 1)) + (location.column - 1)

/-- A location lies within a source that has the line and the column, the one behind the last code point included. -/
structure Within (source : Text) (location : Location) : Prop where
  line_pos : 1 ≤ location.line
  line_le : location.line ≤ source.lines.length
  column_pos : 1 ≤ location.column
  column_le : ∀ line ∈ source.lines[location.line - 1]?, location.column ≤ line.length + 1

theorem locate_within (inside : position ≤ source.length) : (locate source position).Within source := by
  obtain ⟨left, right, around⟩ := exists_lineAround inside
  obtain ⟨above, below, lines, -, located⟩ := around.locate
  rw [located]
  constructor <;> simp [lines]

theorem offset_locate (inside : position ≤ source.length) : (locate source position).offset source = position := by
  obtain ⟨left, right, around⟩ := exists_lineAround inside
  obtain ⟨above, below, lines, offset, located⟩ := around.locate
  rw [located]
  simpa [Location.offset, lines] using offset

/-- A location on an earlier line has a smaller offset. -/
theorem offset_lt {first second : Location} (here : first.Within source) (above : first.line < second.line) :
    first.offset source < second.offset source := by
  have positive := here.line_pos
  have exists_line : first.line - 1 < source.lines.length := by
    have bounded := here.line_le
    omega
  have fits := here.column_le _ (List.getElem?_eq_getElem exists_line)
  have counted := here.column_pos
  -- The whole line of the first location, with its newline, stands above the second one.
  have next : linesLength (source.lines.take (first.line - 1 + 1)) =
      linesLength (source.lines.take (first.line - 1)) + (source.lines[first.line - 1].length + 1) := by
    rw [List.take_succ_eq_append_getElem exists_line, linesLength_append]
    rfl
  obtain ⟨between, prefixed⟩ : source.lines.take (first.line - 1 + 1) <+: source.lines.take (second.line - 1) :=
    List.take_prefix_take_left (by omega)
  rw [offset, offset, ← prefixed, linesLength_append, next]
  omega

/-- No two locations within a source have the same offset. -/
theorem eq_of_offset {first second : Location} (here : first.Within source) (there : second.Within source)
    (same : first.offset source = second.offset source) : first = second := by
  have line : first.line = second.line := by
    rcases Nat.lt_trichotomy first.line second.line with less | equal | greater
    · exact absurd same (Nat.ne_of_lt (offset_lt here less))
    · exact equal
    · exact absurd same.symm (Nat.ne_of_lt (offset_lt there greater))
  have column : first.column = second.column := by
    have left := here.column_pos
    have right := there.column_pos
    simp only [offset, line] at same
    omega
  exact Location.ext line column

end Location

/-- This function writes the first line of the note for a position. -/
def Location.heading (position : Nat) (location : Location) : Text :=
  Text.concat
    ["At position ", Text.ofNat position, " (line ", Text.ofNat location.line, ", column ",
      Text.ofNat location.column, ")"]

/-- The note that is added for a position gives a location in its first line. -/
def ParseError.Locates (error : ParseError) (position : Nat) (location : Location) : Prop :=
  ∃ note, (error.addPositionNote position).notes = error.notes ++ [note] ∧
    note.lines.head? = some (location.heading position)

theorem run_inLine_ofNat (number : Nat) : Run inLine (Text.ofNat number) := by
  have disjoint : ∀ point, isDigit point = true → Location.isNewline point = false :=
    disjoint_of_members (by decide)
  intro point member
  rw [inLine, disjoint point (run_ofNat number point member), Bool.not_false]

namespace Location

theorem run_heading (position : Nat) (location : Location) : Run inLine (location.heading position) := by
  have first : Run inLine "At position " := by decide
  have second : Run inLine " (line " := by decide
  have third : Run inLine ", column " := by decide
  have last : Run inLine ")" := by decide
  simp [heading, Text.concat, first, second, third, last, run_inLine_ofNat]

/-- The first line of a note shows the line and the column. -/
theorem heading_injective {first second : Location} (same : first.heading position = second.heading position) :
    first = second := by
  simp only [heading, Text.concat, List.flatten_cons, List.flatten_nil, List.append_nil,
    List.append_cancel_left_eq] at same
  obtain ⟨line, rest⟩ := ofNat_append_inj (Stops.append (by decide) (by decide))
    (Stops.append (by decide) (by decide)) same
  rw [List.append_cancel_left_eq] at rest
  obtain ⟨column, -⟩ := ofNat_append_inj (by decide) (by decide) rest
  exact Location.ext line column

end Location

/-- This function writes the last line of a note. -/
def caretLine (width : Nat) : Text :=
  List.replicate width (CodePoint.scalar ' ') ++ ("^" : Text)

theorem positionNote_eq (source : Text) (position : Nat) :
    positionNote source position =
      (Location.locate source position).heading position ++ CodePoint.scalar '\n' ::
        ((LineExcerpt.around source position).before ++ (LineExcerpt.around source position).after ++
          CodePoint.scalar '\n' :: caretLine (LineExcerpt.around source position).before.length) := by
  have closing : (")\n" : Text) = (")" : Text) ++ [CodePoint.scalar '\n'] := rfl
  have newline : ("\n" : Text) = [CodePoint.scalar '\n'] := rfl
  simp [positionNote, Location.heading, caretLine, Text.concat, closing, newline]

theorem head_lines_positionNote (source : Text) (position : Nat) :
    (positionNote source position).lines.head? = some ((Location.locate source position).heading position) := by
  rw [positionNote_eq, lines_newline _ _ (by decide), lines_of_run (Location.run_heading position _)]
  rfl

namespace ParseError

theorem notes_addPositionNote_iff {error : ParseError} {note : Text} :
    (error.addPositionNote position).notes = error.notes ++ [note] ↔ positionNote error.source position = note := by
  simp [addPositionNote]

theorem locates_iff {error : ParseError} {location : Location} :
    error.Locates position location ↔ location = Location.locate error.source position := by
  constructor
  · rintro ⟨note, added, first⟩
    obtain rfl := notes_addPositionNote_iff.1 added
    rw [head_lines_positionNote] at first
    exact (Location.heading_injective (Option.some.inj first)).symm
  · rintro rfl
    exact ⟨_, notes_addPositionNote_iff.2 rfl, head_lines_positionNote ..⟩

/-- The line and the column in the note for a position are the only ones that add up to it, and no other position has
them. -/
theorem locates_uniquely (error : ParseError) (inside : position ≤ error.source.length) :
    ∃ location, (∀ other, error.Locates position other ↔ other = location) ∧
      location.Within error.source ∧ location.offset error.source = position ∧
      (∀ other : Location, other.Within error.source → other.offset error.source = position → other = location) ∧
      ∀ other ≤ error.source.length, error.Locates other location → other = position := by
  have within := Location.locate_within inside
  have back := Location.offset_locate inside
  refine ⟨Location.locate error.source position, fun other => locates_iff, within, back, ?_, ?_⟩
  · intro other there same
    exact Location.eq_of_offset there within (same.trans back.symm)
  · intro other there located
    rw [locates_iff] at located
    rw [← Location.offset_locate there, ← located, back]

/-- The last of two lines counts its columns from one. -/
theorem locates_uniquely_last :
    let error : ParseError := ⟨"ab\ncd", .endOfInput, "Unexpected end of input.", []⟩
    4 ≤ error.source.length ∧ error.Locates 4 ⟨2, 2⟩ ∧
      ∀ other ≤ error.source.length, error.Locates other ⟨2, 2⟩ → other = 4 := by
  intro error
  have inside : 4 ≤ error.source.length := by decide
  have located : error.Locates 4 ⟨2, 2⟩ := ⟨positionNote error.source 4, rfl, by decide +kernel⟩
  obtain ⟨location, named, -, -, -, alone⟩ := error.locates_uniquely inside
  obtain rfl := (named _).1 located
  exact ⟨inside, located, alone⟩

end ParseError

end ParserAlgebra
