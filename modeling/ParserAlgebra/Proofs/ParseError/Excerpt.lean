import Mathlib.Data.List.DropRight
import ParserAlgebra.Proofs.ParseError.Location

namespace ParserAlgebra

open Text

namespace Text

variable {text : Text}

/-- A note shows the beginning of a text that is cut or does not end with three dots. -/
theorem shown_of_plain (plain : ¬ (text.length ≤ excerptLength ∧ ("..." : Text) <:+ text)) :
    dropEnding "..." text.excerpt = text.take excerptLength := by
  rcases Nat.lt_or_ge excerptLength text.length with long | short
  · rw [excerpt_long long, dropEnding_append]
  · rw [excerpt_short short, List.take_of_length_le short]
    exact dropEnding_of_not fun dotted => plain ⟨short, dotted⟩

/-- Three dots at the end of a text that is not cut are taken for the mark of a cut. -/
theorem shown_of_dotted (short : (text ++ ("..." : Text)).length ≤ excerptLength) :
    dropEnding "..." (text ++ ("..." : Text)).excerpt = text := by
  rw [excerpt_short short, dropEnding_append]

theorem shown_iff (text : Text) :
    dropEnding "..." text.excerpt = text.take excerptLength ↔
      ¬ (text.length ≤ excerptLength ∧ ("..." : Text) <:+ text) := by
  refine ⟨?_, shown_of_plain⟩
  rintro shown ⟨short, kept, rfl⟩
  rw [shown_of_dotted short, List.take_of_length_le short, List.self_eq_append_right] at shown
  exact absurd shown (by decide)

theorem prefix_shown (text : Text) : dropEnding "..." text.excerpt <+: text := by
  by_cases dotted : text.length ≤ excerptLength ∧ ("..." : Text) <:+ text
  · obtain ⟨short, kept, rfl⟩ := dotted
    rw [shown_of_dotted short]
    exact List.prefix_append kept _
  · rw [shown_of_plain dotted]
    exact List.take_prefix excerptLength text

theorem head?_shown (nonempty : text ≠ []) :
    (dropEnding "..." text.excerpt).head? = text.head? ↔ text ≠ ("..." : Text) := by
  by_cases dotted : text.length ≤ excerptLength ∧ ("..." : Text) <:+ text
  · obtain ⟨short, kept, rfl⟩ := dotted
    rw [shown_of_dotted short]
    cases kept with
    | nil => decide
    | cons point points =>
        have longer : point :: points ++ ("..." : Text) ≠ ("..." : Text) := by
          intro same
          have lengths := congrArg List.length same
          simp only [List.length_append, List.length_cons] at lengths
          omega
        exact iff_of_true rfl longer
  · have other : text ≠ ("..." : Text) := by
      rintro rfl
      exact dotted ⟨by decide, List.suffix_refl _⟩
    rw [shown_of_plain dotted, List.head?_take]
    simp [excerptLength, other]

end Text

/-- This test recognizes the carriage return. -/
def isReturn (point : CodePoint) : Bool :=
  point == CodePoint.scalar '\r'

variable {source left right rest second third : Text} {position : Nat}

/-- The rest of a line stands in front of the carriage returns at its end. -/
inductive Trimmed : Text → Text → Prop where
  | trimmed {rest returns : Text} (ends : Stops isReturn rest.reverse) (returned : Run isReturn returns) :
      Trimmed (rest ++ returns) rest

theorem trimmed_dropEndWhile (right : Text) : Trimmed right (right.dropEndWhile isReturn) := by
  have returned := (run_takeWhile isReturn right.reverse).reverse
  have ends : Stops isReturn (right.dropEndWhile isReturn).reverse := by
    rw [dropEndWhile, List.reverse_reverse]
    exact stops_dropWhile isReturn right.reverse
  have trimmed := Trimmed.trimmed ends returned
  rwa [dropEndWhile, ← List.reverse_append, List.takeWhile_append_dropWhile, List.reverse_reverse] at trimmed

theorem Trimmed.dropEndWhile_eq (trimmed : Trimmed right rest) : right.dropEndWhile isReturn = rest := by
  obtain ⟨ends, returned⟩ := trimmed
  rw [dropEndWhile, List.reverse_append, returned.reverse.dropWhile_append ends, List.reverse_reverse]

/-- A note shows the end of the left part of a line and the rest of it. -/
theorem LineAround.excerpt (around : LineAround source position left right) (trimmed : Trimmed right rest) :
    LineExcerpt.around source position = ⟨left.rtake excerptLength, dropEnding "..." rest.excerpt⟩ := by
  have start := around.lineStart_add
  obtain ⟨opens, before, behind, closes⟩ := around
  rename_i front back
  have cut : max (Location.lineStart (front ++ left ++ (right ++ back)) (front ++ left).length)
      ((front ++ left).length - excerptLength) = front.length + (left.length - excerptLength) := by
    rw [List.length_append] at start ⊢
    omega
  have line : LineExcerpt.lineRest (front ++ left ++ (right ++ back)) (front ++ left).length =
      dropEndWhile isReturn ((right ++ back).takeWhile inLine) := by
    rw [LineExcerpt.lineRest, List.drop_left]
    rfl
  rw [behind.takeWhile_append closes, trimmed.dropEndWhile_eq] at line
  rw [LineExcerpt.around, line, cut, List.take_left, ← List.drop_drop, List.drop_left, List.rtake]

/-- The code point at a position is the first one of the rest of its line. -/
theorem LineAround.getElem? (around : LineAround source position left right) (trimmed : Trimmed right rest)
    (nonempty : rest ≠ []) : source[position]? = rest.head? := by
  obtain ⟨opens, before, behind, closes⟩ := around
  obtain ⟨ends, returned⟩ := trimmed
  rw [List.getElem?_append_right (Nat.le_refl _), Nat.sub_self, ← List.head?_eq_getElem?, List.append_assoc,
    List.head?_append_of_ne_nil _ nonempty]

namespace ParseError

variable {error : ParseError}

/-- The note that is added for a position has three lines, and these are the last two. -/
def Shows (error : ParseError) (position : Nat) (second third : Text) : Prop :=
  ∃ note first, (error.addPositionNote position).notes = error.notes ++ [note] ∧
    note.lines = [first, second, third]

theorem run_caretLine (width : Nat) : Run inLine (caretLine width) :=
  run_append.2 ⟨run_replicate (by decide) width, by decide⟩

/-- Nothing that a note shows of a line goes past its end. -/
theorem run_shown (around : LineAround source position left right) (trimmed : Trimmed right rest) :
    Run inLine (left.rtake excerptLength ++ dropEnding "..." rest.excerpt) := by
  obtain ⟨opens, before, behind, closes⟩ := around
  obtain ⟨ends, returned⟩ := trimmed
  have kept : left.rtake excerptLength <:+ left := List.drop_suffix _ _
  refine run_append.2 ⟨fun point member => before point (kept.subset member), fun point member => ?_⟩
  exact (run_append.1 behind).1 point ((prefix_shown rest).subset member)

theorem lines_positionNote (around : LineAround source position left right) (trimmed : Trimmed right rest) :
    (positionNote source position).lines =
      [(Location.locate source position).heading position,
        left.rtake excerptLength ++ dropEnding "..." rest.excerpt, caretLine (left.rtake excerptLength).length] := by
  have first := (Location.locate source position).run_heading position
  rw [positionNote_eq, around.excerpt trimmed, lines_newline _ _ (by decide), lines_newline _ _ (by decide),
    lines_of_run first, lines_of_run (run_shown around trimmed), lines_of_run (run_caretLine _)]
  rfl

theorem shows_iff (around : LineAround error.source position left right) (trimmed : Trimmed right rest) :
    error.Shows position second third ↔
      second = left.rtake excerptLength ++ dropEnding "..." rest.excerpt ∧
        third = caretLine (left.rtake excerptLength).length := by
  have lines := lines_positionNote around trimmed
  constructor
  · rintro ⟨note, first, added, shown⟩
    obtain rfl := notes_addPositionNote_iff.1 added
    simp only [lines, List.cons.injEq] at shown
    exact ⟨shown.2.1.symm, shown.2.2.1.symm⟩
  · rintro ⟨rfl, rfl⟩
    exact ⟨_, _, notes_addPositionNote_iff.2 rfl, lines⟩

/-- The note for a position shows up to twenty code points on each side and the caret behind the left ones, unless the
right side is not cut and ends with three dots. -/
theorem note_shows (inside : position ≤ error.source.length) :
    (∃ left right rest, LineAround error.source position left right ∧ Trimmed right rest) ∧
      ∀ left right rest, LineAround error.source position left right → Trimmed right rest →
        let shown := left.rtake 20
        (error.Shows position (shown ++ rest.take 20) (caretLine shown.length) ↔
          ¬ (rest.length ≤ 20 ∧ ("..." : Text) <:+ rest)) ∧
        (∀ kept, rest = kept ++ ("..." : Text) → rest.length ≤ 20 →
          error.Shows position (shown ++ kept) (caretLine shown.length)) ∧
        (rest ≠ [] → ∀ second third, error.Shows position second third →
          (second[shown.length]? = error.source[position]? ↔ rest ≠ ("..." : Text))) := by
  constructor
  · obtain ⟨left, right, around⟩ := exists_lineAround inside
    exact ⟨left, right, _, around, trimmed_dropEndWhile right⟩
  · intro left right rest around trimmed
    rw [show 20 = excerptLength from rfl]
    intro shown
    refine ⟨?_, ?_, ?_⟩
    · rw [shows_iff around trimmed, and_iff_left rfl, List.append_cancel_left_eq, eq_comm]
      exact shown_iff rest
    · rintro kept rfl short
      exact (shows_iff around trimmed).2 ⟨by rw [shown_of_dotted short], rfl⟩
    · intro nonempty second third shows
      obtain ⟨rfl, -⟩ := (shows_iff around trimmed).1 shows
      rw [List.getElem?_append_right (Nat.le_refl _), Nat.sub_self, ← List.head?_eq_getElem?,
        around.getElem? trimmed nonempty]
      exact head?_shown nonempty

/-- A line that ends with a carriage return is shown without it. -/
theorem note_shows_second_line :
    let error : ParseError := ⟨"a\nbcd\r\ne", .custom "m", "m", []⟩
    (3 ≤ error.source.length ∧ LineAround error.source 3 "b" "cd\r" ∧ Trimmed "cd\r" "cd") ∧
      error.Shows 3 "bcd" " ^" := by
  intro error
  have inside : 3 ≤ error.source.length := by decide
  have around : LineAround error.source 3 "b" "cd\r" :=
    @LineAround.around "a\n" "b" "cd\r" "\ne" (by decide) (by decide) (by decide) (by decide)
  have trimmed : Trimmed "cd\r" "cd" := @Trimmed.trimmed "cd" "\r" (by decide) (by decide)
  exact ⟨⟨inside, around, trimmed⟩, ((note_shows inside).2 _ _ _ around trimmed).1.2 (by decide)⟩

/-- Three dots at the end of a source are missing in its note. -/
theorem dots_not_shown :
    let error : ParseError := ⟨"ab...", .custom "m", "m", []⟩
    (2 ≤ error.source.length ∧ LineAround error.source 2 "ab" "..." ∧ Trimmed "..." "...") ∧
      error.Shows 2 "ab" "  ^" ∧ ¬ error.Shows 2 "ab..." "  ^" := by
  intro error
  have around : LineAround error.source 2 "ab" "..." :=
    @LineAround.around [] "ab" "..." [] (by decide) (by decide) (by decide) (by decide)
  have trimmed : Trimmed "..." "..." := @Trimmed.trimmed "..." [] (by decide) (by decide)
  refine ⟨⟨by decide, around, trimmed⟩, (shows_iff around trimmed).2 (by decide), fun shows => ?_⟩
  exact absurd ((shows_iff around trimmed).1 shows).1 (by decide)

end ParseError

end ParserAlgebra
