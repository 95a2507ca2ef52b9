import ParserAlgebra.Proofs.Text.Run

/-
This file defines languages with meanings, and the ways in which grammars build them.
-/

namespace ParserAlgebra

/-- A language says which texts it has, and what each of them means. -/
abbrev Language (α : Type) := Text → α → Prop

namespace Language

variable {α σ : Type}

/-- The language of one literal, which means itself. -/
def Literal (literal : Text) : Language Text :=
  fun text value => text = literal ∧ value = literal

/-- The language of several literals, each of which means itself. -/
def Chosen (literals : List Text) : Language Text :=
  fun text value => text = value ∧ value ∈ literals

/-- Blanks may stand on both sides of the text. -/
inductive Padded (blank : CodePoint → Bool) (language : Text → α → Prop) : Text → α → Prop where
  | padded {left text right : Text} {value : α} (before : Text.Run blank left)
      (inner : language text value) (after : Text.Run blank right) :
      Padded blank language (left ++ text ++ right) value

/-- The text may be left out. -/
inductive Optional (language : Text → α → Prop) : Text → Option α → Prop where
  | absent : Optional language [] none
  | present {text : Text} {value : α} (here : language text value) :
      Optional language text (some value)

/-- Texts of one language stand one after the other. -/
inductive Sequence (language : Text → α → Prop) : Text → List α → Prop where
  | nil : Sequence language [] []
  | cons {text rest : Text} {value : α} {values : List α} (first : language text value)
      (others : Sequence language rest values) : Sequence language (text ++ rest) (value :: values)

/-- A comma stands behind the item. -/
inductive Ended (item : Text → α → Prop) : Text → α → Prop where
  | ended {text : Text} {value : α} (inner : item text value) : Ended item (text ++ ("," : Text)) value

/-- One or more items stand one after the other, with commas between them. -/
inductive Separated (item : Text → α → Prop) : Text → List α → Prop where
  | single {text : Text} {value : α} (only : item text value) : Separated item text [value]
  | cons {text rest : Text} {value : α} {values : List α} (first : item text value)
      (others : Separated item rest values) :
      Separated item (text ++ ("," : Text) ++ rest) (value :: values)

/-- A list of items may be empty, and a comma may follow the last item. -/
inductive Listed (item : Text → α → Prop) : Text → List α → Prop where
  | empty : Listed item [] []
  | items {text : Text} {values : List α} (items : Separated item text values) :
      Listed item text values
  | trailing {text : Text} {values : List α} (items : Separated item text values) :
      Listed item (text ++ ("," : Text)) values

/-- Elements stand one after the other, each with a separator behind it that the last one may lack. -/
inductive Repeated (element : Text → α → Prop) (separator : Text → σ → Prop) :
    Text → List α → Prop where
  | nil : Repeated element separator [] []
  | last {text : Text} {value : α} (only : element text value) :
      Repeated element separator text [value]
  | cons {text mark rest : Text} {value : α} {ignored : σ} {values : List α}
      (first : element text value) (between : separator mark ignored)
      (others : Repeated element separator rest values) :
      Repeated element separator (text ++ mark ++ rest) (value :: values)

/-- The separators of a list are commas. -/
theorem Repeated.listed {item : Language α} {text : Text} {values : List α}
    (repeated : Repeated item (Literal ",") text values) : Listed item text values := by
  induction repeated with
  | nil => exact .empty
  | last only => exact .items (.single only)
  | cons first between others inductionHypothesis =>
      obtain ⟨rfl, -⟩ := between
      cases inductionHypothesis with
      | empty => simpa using Listed.trailing (.single first)
      | items items => exact .items (.cons first items)
      | trailing items => simpa using Listed.trailing (.cons first items)

theorem Separated.repeated {item : Language α} {text : Text} {values : List α}
    (separated : Separated item text values) : Repeated item (Literal ",") text values := by
  induction separated with
  | single only => exact .last only
  | cons first others inductionHypothesis => exact .cons first ⟨rfl, rfl⟩ inductionHypothesis

theorem Separated.repeated_trailing {item : Language α} {text : Text} {values : List α}
    (separated : Separated item text values) :
    Repeated item (Literal ",") (text ++ ("," : Text)) values := by
  induction separated with
  | @single text value only =>
      have one : Repeated item (Literal ",") (text ++ ("," : Text) ++ []) [value] :=
        .cons only ⟨rfl, rfl⟩ .nil
      rwa [List.append_nil] at one
  | cons first others inductionHypothesis =>
      rw [List.append_assoc]
      exact .cons first ⟨rfl, rfl⟩ inductionHypothesis

/-- A list is a repetition with commas for separators. -/
theorem listed_iff_repeated {item : Language α} {text : Text} {values : List α} :
    Listed item text values ↔ Repeated item (Literal ",") text values := by
  constructor
  · intro listed
    cases listed with
    | empty => exact .nil
    | items items => exact items.repeated
    | trailing items => exact items.repeated_trailing
  · exact Repeated.listed

/-- A repetition with commas is a sequence of items that end with commas, or such a sequence and one
more item. -/
theorem Repeated.ended {item : Language α} {text : Text} {values : List α}
    (repeated : Repeated item (Literal ",") text values) :
    Sequence (Ended item) text values ∨
      ∃ front back first last, text = front ++ back ∧ values = first ++ [last] ∧
        Sequence (Ended item) front first ∧ item back last := by
  induction repeated with
  | nil => exact .inl .nil
  | @last text value only => exact .inr ⟨[], text, [], value, rfl, rfl, .nil, only⟩
  | @cons text mark rest value ignored values first between _ inductionHypothesis =>
      obtain ⟨rfl, -⟩ := between
      rcases inductionHypothesis with all | ⟨front, back, others, last, rfl, rfl, ended, final⟩
      · exact .inl (.cons (.ended first) all)
      · exact .inr ⟨text ++ ("," : Text) ++ front, back, value :: others, last, by simp, rfl,
          .cons (.ended first) ended, final⟩

/-- Items with commas between them are items of another language if each of them is. -/
theorem Separated.exists_map {β : Type} {item : Language α} {other : Language β} {text : Text}
    {values : List α} (separated : Separated item text values)
    (each : ∀ {part value}, part.length ≤ text.length → item part value → ∃ image, other part image) :
    ∃ images, Separated other text images := by
  induction separated with
  | single only =>
      obtain ⟨image, here⟩ := each (Nat.le_refl _) only
      exact ⟨[image], .single here⟩
  | cons first others inductionHypothesis =>
      simp only [List.length_append] at each
      obtain ⟨image, here⟩ := each (by omega) first
      obtain ⟨images, there⟩ := inductionHypothesis fun small member => each (by omega) member
      exact ⟨image :: images, .cons here there⟩

/-- A list has good items only, or good items with commas behind them in front of a bad one. -/
theorem Separated.good_or_bad {β : Type} {item : Language α} {good : Language β} {bad : Text → Prop}
    {text : Text} {values : List α} (separated : Separated item text values)
    (each : ∀ {part value}, part.length ≤ text.length → item part value →
      (∃ image, good part image) ∨ bad part) :
    (∃ images, Separated good text images) ∨
      ∃ front part after images, text = front ++ (part ++ after) ∧ Sequence (Ended good) front images ∧
        bad part ∧ (after = [] ∨ ("," : Text) <+: after) := by
  induction separated with
  | @single text value only =>
      rcases each (Nat.le_refl _) only with ⟨image, here⟩ | here
      · exact .inl ⟨[image], .single here⟩
      · exact .inr ⟨[], text, [], [], by simp, .nil, here, .inl rfl⟩
  | @cons text rest value values first others inductionHypothesis =>
      simp only [List.length_append] at each
      rcases each (by omega) first with ⟨image, here⟩ | here
      · rcases inductionHypothesis (fun small member => each (by omega) member) with
          ⟨images, separated⟩ | ⟨front, part, after, images, rfl, before, stuck, follows⟩
        · exact .inl ⟨image :: images, .cons here separated⟩
        · exact .inr ⟨text ++ ("," : Text) ++ front, part, after, image :: images, by simp,
            .cons (.ended here) before, stuck, follows⟩
      · exact .inr ⟨[], text, ("," : Text) ++ rest, [], by simp, .nil, here, .inr (List.prefix_append _ _)⟩

/-- Texts of one language after another are such texts of another language, if each of them is. -/
theorem Sequence.exists_map {β : Type} {language : Language α} {other : Language β} {text : Text}
    {values : List α} (sequence : Sequence language text values)
    (each : ∀ {part value}, language part value → ∃ image, other part image) :
    ∃ images, Sequence other text images := by
  induction sequence with
  | nil => exact ⟨[], .nil⟩
  | cons first others inductionHypothesis =>
      obtain ⟨image, here⟩ := each first
      obtain ⟨images, there⟩ := inductionHypothesis
      exact ⟨image :: images, .cons here there⟩

/-- What holds of the code points of each text holds of those of a sequence. -/
theorem Sequence.forall_mem {language : Language α} {property : CodePoint → Prop} {text : Text}
    {values : List α} (each : ∀ {part value}, language part value → ∀ point ∈ part, property point)
    (sequence : Sequence language text values) : ∀ point ∈ text, property point := by
  induction sequence with
  | nil => simp
  | cons first others inductionHypothesis =>
      intro point member
      rcases List.mem_append.1 member with here | there
      · exact each first point here
      · exact inductionHypothesis point there

/-- A text that neither begins nor ends with a blank has no blanks around it. -/
theorem Padded.inner {blank : CodePoint → Bool} {language : Language α} {text : Text} {value : α}
    (padded : Padded blank language text value) (left : Text.Stops blank text)
    (right : Text.Stops blank text.reverse) : language text value := by
  obtain ⟨before, inner, after⟩ := padded
  rename_i start text finish
  have noStart : start = [] := by
    cases start with
    | nil => rfl
    | cons point points =>
        simp only [List.cons_append, Text.stops_cons] at left
        rw [(Text.run_cons.1 before).1] at left
        cases left
  have noFinish : finish = [] := by
    rw [List.reverse_append] at right
    cases reversed : finish.reverse with
    | nil => simpa using reversed
    | cons point points =>
        have member : point ∈ finish := List.mem_reverse.1 (by rw [reversed]; exact List.mem_cons_self)
        rw [reversed, List.cons_append, Text.stops_cons, after point member] at right
        cases right
  subst noStart noFinish
  rwa [List.nil_append, List.append_nil]

/-- Separators that are empty leave a sequence. -/
theorem Repeated.sequence {element : Language α} {separator : Language σ} {text : Text}
    {values : List α} (blank : ∀ {mark ignored}, separator mark ignored → mark = [])
    (repeated : Repeated element separator text values) : Sequence element text values := by
  induction repeated with
  | nil => exact .nil
  | last only => simpa using Sequence.cons only .nil
  | cons first between others inductionHypothesis =>
      rw [blank between, List.append_nil]
      exact .cons first inductionHypothesis

theorem Sequence.mono {small large : Language α} {text : Text} {values : List α}
    (within : ∀ {text value}, small text value → large text value)
    (sequence : Sequence small text values) : Sequence large text values := by
  induction sequence with
  | nil => exact .nil
  | cons first others inductionHypothesis => exact .cons (within first) inductionHypothesis

theorem Sequence.append {language : Language α} {first second : Text} {left right : List α}
    (here : Sequence language first left) (there : Sequence language second right) :
    Sequence language (first ++ second) (left ++ right) := by
  induction here with
  | nil => exact there
  | cons one others inductionHypothesis =>
      rw [List.append_assoc]
      exact .cons one inductionHypothesis

end Language

end ParserAlgebra
