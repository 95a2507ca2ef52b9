import ParserAlgebra.Proofs.Parser.FailurePoint

namespace ParserAlgebra.Parser

variable {α : Type}

/-- A choice of two parsers goes on with an alternative as the first parser does with the second one in front of
it. -/
theorem stepElse_assoc (first second : Parser α) (alternative : Text → Logged (Outcome α)) (source : Text) :
    (⟨first.stepElse second.step, none⟩ : Parser α).stepElse alternative source =
      first.stepElse (second.stepElse alternative) source := by
  simp only [stepElse, bind]
  cases (first.step source).value with
  | success value rest => simp [pure]
  | fault reason => simp [pure]
  | failure reason =>
      cases (second.step source).value <;> simp [pure]

/-- The alternatives of a choice may be tried as a choice of their own, and the others after it. -/
theorem chooseStep_append (front : List (Parser α)) {others : List (Parser α)} (nonempty : others ≠ [])
    (source : Text) :
    chooseStep (front ++ others) source = (oneOf front).stepElse (chooseStep others) source := by
  induction front generalizing source with
  | nil =>
      -- The choice without alternatives fails, and this failure is dropped.
      rfl
  | cons first front inductionHypothesis =>
      have tried : chooseStep (first :: (front ++ others)) = first.stepElse (chooseStep (front ++ others)) := by
        cases both : front ++ others with
        | nil => exact absurd (List.append_eq_nil_iff.1 both).2 nonempty
        | cons second behind => rfl
      have behind : chooseStep (front ++ others) = (oneOf front).stepElse (chooseStep others) :=
        funext inductionHypothesis
      rw [List.cons_append, tried, behind]
      cases front with
      | nil => rfl
      | cons second front => exact (stepElse_assoc first (oneOf (second :: front)) _ source).symm

/-- A choice may be split into nested choices anywhere in front of its last alternative, with the same outcome and
log. -/
theorem oneOf_nested (front : List (Parser α)) {others : List (Parser α)} (nonempty : others ≠ []) (source : Text) :
    (oneOf [oneOf front, oneOf others]).step source = (oneOf (front ++ others)).step source ∧
      (oneOf (front ++ [oneOf others])).step source = (oneOf (front ++ others)).step source ∧
      ∀ reason, (oneOf (front ++ others)).parse source = .failure reason →
        (others.getLast nonempty).parse source = .failure reason := by
  have split : (oneOf (front ++ others)).step source = (oneOf front).stepElse (oneOf others).step source :=
    chooseStep_append front nonempty source
  have nested : (oneOf (front ++ [oneOf others])).step source = (oneOf front).stepElse (oneOf others).step source :=
    chooseStep_append front (List.cons_ne_nil _ _) source
  refine ⟨split.symm, nested.trans split.symm, ?_⟩
  intro reason failed
  have whole : front ++ others ≠ [] := List.append_ne_nil_of_right_ne_nil front nonempty
  rw [← List.getLast_append_of_ne_nil whole nonempty]
  exact oneOf_failure_last whole failed

/-- Behind a choice without alternatives, a choice among numerals fails as its last alternative does. -/
theorem oneOf_nested_numerals :
    let numerals : List (Parser Text) := [string "0x", digits]
    numerals ≠ [] ∧
      (oneOf [oneOf [], oneOf numerals]).parse "x" = .failure (.unexpected "x") ∧
      digits.parse "x" = .failure (.unexpected "x") ∧
      (oneOf ([string "-"] ++ [oneOf numerals])).parse "12;" = .success "12" ";" := by
  intro numerals
  have nonempty : numerals ≠ [] := List.cons_ne_nil _ _
  have refused : (oneOf numerals).parse "x" = .failure (.unexpected "x") := by decide
  have accepted : (oneOf ([string "-"] ++ numerals)).parse "12;" = .success "12" ";" := by decide
  have behindNone := oneOf_nested [] nonempty "x"
  have behindSign := oneOf_nested [string "-"] nonempty "12;"
  exact ⟨nonempty, (congrArg Logged.value behindNone.1).trans refused, behindNone.2.2 _ refused,
    (congrArg Logged.value behindSign.2.1).trans accepted⟩

end ParserAlgebra.Parser
