import ParserAlgebra.Text.CharacterClass

namespace ParserAlgebra.Text

variable {test : CodePoint → Bool} {text rest : Text}

/-- Every code point of a run passes the test. -/
def Run (test : CodePoint → Bool) (text : Text) : Prop :=
  ∀ point ∈ text, test point = true

/-- A run stops at the end of the input or at a code point that fails the test. -/
def Stops (test : CodePoint → Bool) (rest : Text) : Prop :=
  ∀ point ∈ rest.head?, test point = false

instance : Decidable (Run test text) :=
  inferInstanceAs (Decidable (∀ point ∈ text, test point = true))

instance : Decidable (Stops test rest) :=
  inferInstanceAs (Decidable (∀ point ∈ rest.head?, test point = false))

@[simp] theorem run_nil : Run test [] := by
  simp [Run]

@[simp] theorem run_cons {point : CodePoint} :
    Run test (point :: text) ↔ test point = true ∧ Run test text := by
  simp [Run]

@[simp] theorem run_append {other : Text} :
    Run test (text ++ other) ↔ Run test text ∧ Run test other := by
  simp only [Run, List.mem_append]
  constructor
  · intro run
    exact ⟨fun point member => run point (.inl member), fun point member => run point (.inr member)⟩
  · rintro ⟨left, right⟩ point (member | member)
    · exact left point member
    · exact right point member

theorem Run.reverse (run : Run test text) : Run test text.reverse :=
  fun point member => run point (List.mem_reverse.1 member)

theorem run_replicate {point : CodePoint} (accepted : test point = true) (count : Nat) :
    Run test (List.replicate count point) := by
  intro member inside
  rw [List.eq_of_mem_replicate inside]
  exact accepted

theorem run_takeWhile (test : CodePoint → Bool) (text : Text) : Run test (text.takeWhile test) := by
  intro point member
  exact List.all_eq_true.1 List.all_takeWhile point member

theorem run_of_dropWhile (nothing : text.dropWhile test = []) : Run test text := by
  have whole := List.takeWhile_append_dropWhile (p := test) (l := text)
  rw [nothing, List.append_nil] at whole
  rw [← whole]
  exact run_takeWhile test text

@[simp] theorem stops_nil : Stops test [] := by
  simp [Stops]

@[simp] theorem stops_cons {point : CodePoint} :
    Stops test (point :: rest) ↔ test point = false := by
  simp [Stops]

theorem stops_dropWhile (test : CodePoint → Bool) (text : Text) :
    Stops test (text.dropWhile test) := by
  intro point member
  have refused := List.head?_dropWhile_not test text
  rw [Option.mem_def.1 member] at refused
  simpa using refused

/-- A text stops a run, or it begins with a longest one. -/
theorem stops_or_run (test : CodePoint → Bool) (text : Text) :
    Stops test text ∨ ∃ run rest, text = run ++ rest ∧ run ≠ [] ∧ Run test run ∧ Stops test rest := by
  have whole : text = text.takeWhile test ++ text.dropWhile test := List.takeWhile_append_dropWhile.symm
  by_cases nothing : text.takeWhile test = []
  · left
    rw [whole, nothing]
    exact stops_dropWhile test text
  · exact .inr ⟨_, _, whole, nothing, run_takeWhile test text, stops_dropWhile test text⟩

theorem Stops.of_imp {other : CodePoint → Bool} (stops : Stops test rest)
    (within : ∀ point, other point = true → test point = true) : Stops other rest := by
  intro point member
  have refused := stops point member
  cases accepted : other point with
  | false => rfl
  | true => rw [within point accepted] at refused; cases refused

/-- A rest that begins with a text which stops a run stops the run too. -/
theorem Stops.append (stops : Stops test text) (nonempty : text ≠ []) : Stops test (text ++ rest) := by
  cases text with
  | nil => exact absurd rfl nonempty
  | cons point points => simpa using stops

theorem Stops.dropWhile_eq (stops : Stops test rest) : rest.dropWhile test = rest := by
  cases rest with
  | nil => rfl
  | cons point points => simp [stops_cons.1 stops]

theorem Stops.takeWhile_eq (stops : Stops test rest) : rest.takeWhile test = [] := by
  cases rest with
  | nil => rfl
  | cons point points => simp [stops_cons.1 stops]

/-- The longest run at the start of a text ends where the run stops. -/
theorem Run.takeWhile_append (run : Run test text) (stops : Stops test rest) :
    (text ++ rest).takeWhile test = text := by
  rw [List.takeWhile_append_of_pos run, stops.takeWhile_eq, List.append_nil]

theorem Run.dropWhile_append (run : Run test text) (stops : Stops test rest) :
    (text ++ rest).dropWhile test = rest := by
  rw [List.dropWhile_append_of_pos run, stops.dropWhile_eq]

/-- A text is apart from runs if it is not empty and begins with a code point that fails the test. -/
structure Apart (test : CodePoint → Bool) (text : Text) : Prop where
  nonempty : text ≠ []
  stops : Stops test text

instance : Decidable (Apart test text) :=
  decidable_of_iff (text ≠ [] ∧ Stops test text)
    ⟨fun ⟨nonempty, stops⟩ => ⟨nonempty, stops⟩, fun ⟨nonempty, stops⟩ => ⟨nonempty, stops⟩⟩

theorem Apart.stops_append (apart : Apart test text) (rest : Text) : Stops test (text ++ rest) :=
  apart.stops.append apart.nonempty

theorem Apart.append (apart : Apart test text) (rest : Text) : Apart test (text ++ rest) :=
  ⟨List.append_ne_nil_of_left_ne_nil apart.nonempty rest, apart.stops_append rest⟩

/-- A class of code points is told apart from another one by its members. -/
theorem disjoint_of_members {members : Text} {other : CodePoint → Bool}
    (apart : ∀ point ∈ members, other point = false) :
    ∀ point, members.contains point = true → other point = false := by
  intro point accepted
  exact apart point (List.contains_iff_mem.1 accepted)

/-- A run in front of a stop for another test stops that test too, if no code point passes both. -/
theorem Run.stops_append {other : CodePoint → Bool} (run : Run test text)
    (disjoint : ∀ point, test point = true → other point = false) (stops : Stops other rest) :
    Stops other (text ++ rest) := by
  cases text with
  | nil => exact stops
  | cons point points =>
      rw [List.cons_append, stops_cons]
      exact disjoint point (run_cons.1 run).1

theorem Run.apart {other : CodePoint → Bool} (run : Run test text) (nonempty : text ≠ [])
    (disjoint : ∀ point, test point = true → other point = false) : Apart other text := by
  have stops := run.stops_append disjoint stops_nil
  rw [List.append_nil] at stops
  exact ⟨nonempty, stops⟩

/-- A numeral is a run of decimal digits with at least one of them. -/
structure Numeral (text : Text) : Prop where
  nonempty : text ≠ []
  digits : Run ("0123456789" : Text).contains text

theorem Numeral.run (numeral : Numeral text) : Run isDigit text :=
  numeral.digits

theorem Numeral.apart {other : CodePoint → Bool} (numeral : Numeral text)
    (disjoint : ∀ point ∈ CharacterClass.decimalDigits, other point = false) : Apart other text :=
  numeral.run.apart numeral.nonempty (disjoint_of_members disjoint)

theorem Numeral.not_stops (numeral : Numeral text) (rest : Text) : ¬ Stops isDigit (text ++ rest) := by
  cases text with
  | nil => exact absurd rfl numeral.nonempty
  | cons point points => simp [(run_cons.1 numeral.run).1]

/-- This test recognizes the code points that go on with a numeral, with or without a fraction. -/
def isNumeralPart (point : CodePoint) : Bool :=
  isDigit point || point == CodePoint.scalar '.'

theorem space_disjoint : ∀ point, isSpace point = true → isNumeralPart point = false :=
  disjoint_of_members (by decide)

theorem Stops.digit (stops : Stops isNumeralPart rest) : Stops isDigit rest :=
  stops.of_imp fun point digit => by simp [isNumeralPart, digit]

end ParserAlgebra.Text
