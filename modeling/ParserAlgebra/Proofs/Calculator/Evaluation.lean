import ParserAlgebra.Proofs.Calculator.Fault
import ParserAlgebra.Proofs.Number.Nearest

namespace ParserAlgebra

/-- The integer zero and both zeros of doubles are zero. -/
def Number.IsZero : Number → Prop
  | integer value => value = 0
  | real value => value.isZero = true

/-- An integer is out of range if it lies past the largest double. -/
def Number.OutOfRange : Number → Prop
  | integer value => (Double.ofInt value).isInfinite = true
  | real _ => False

/-- A double is no integer. -/
def Number.IsReal : Number → Prop
  | integer _ => False
  | real _ => True

namespace Number

variable {value left right : Number} {converted : Double} {fault : Fault}

theorem toDouble_eq_error_iff : value.toDouble = .error fault ↔ value.OutOfRange ∧ fault = .integerTooLarge := by
  cases value with
  | integer value =>
      rw [toDouble, OutOfRange]
      by_cases large : (Double.ofInt value).isInfinite = true
      · simp only [large, if_true, true_and, Except.error.injEq, eq_comm]
      · rw [if_neg large]
        refine iff_of_false (fun raised => ?_) fun both => large both.1
        cases raised
  | real value =>
      refine iff_of_false (fun raised => ?_) fun both => both.1.elim
      cases raised

/-- Conversion makes zeros of zeros only. -/
theorem isZero_toDouble (conversion : value.toDouble = .ok converted) : converted.isZero = true ↔ value.IsZero := by
  cases value with
  | integer value =>
      rw [toDouble] at conversion
      split at conversion <;> cases conversion
      constructor
      · exact Double.ofInt_isZero
      · rintro rfl
        decide
  | real value =>
      cases conversion
      rfl

/-- Where an operand is a double, the other one has to be in range. -/
theorem combine_eq_error_iff {onIntegers : Int → Int → Except Fault Number}
    {onReals : Double → Double → Except Fault Number} (mixed : left.IsReal ∨ right.IsReal) :
    combine onIntegers onReals left right = .error fault ↔
      (left.OutOfRange ∨ right.OutOfRange) ∧ fault = .integerTooLarge ∨
        ∃ first second, left.toDouble = .ok first ∧ right.toDouble = .ok second ∧
          onReals first second = .error fault := by
  unfold combine
  split
  · exact (mixed.elim id id).elim
  · simp only [Expression.bind_eq_error, toDouble_eq_error_iff]
    constructor
    · rintro (⟨out, large⟩ | ⟨first, conversion, ⟨out, large⟩ | ⟨second, other, raised⟩⟩)
      · exact .inl ⟨.inl out, large⟩
      · exact .inl ⟨.inr out, large⟩
      · exact .inr ⟨first, second, conversion, other, raised⟩
    · rintro (⟨out | out, large⟩ | ⟨first, second, conversion, other, raised⟩)
      · exact .inl ⟨out, large⟩
      · cases conversion : left.toDouble with
        | error fault => exact .inl ⟨(toDouble_eq_error_iff.1 conversion).1, large⟩
        | ok first => exact .inr ⟨first, rfl, .inl ⟨out, large⟩⟩
      · exact .inr ⟨first, conversion, .inr ⟨second, other, raised⟩⟩

/-- Operations that always give a number raise a fault for integers only that are too large. -/
theorem combine_eq_error {onIntegers : Int → Int → Number} {onReals : Double → Double → Number}
    (raised : combine (fun first second => .ok (onIntegers first second))
      (fun first second => .ok (onReals first second)) left right = .error fault) : fault = .integerTooLarge := by
  by_cases mixed : left.IsReal ∨ right.IsReal
  · rcases (combine_eq_error_iff mixed).1 raised with ⟨-, large⟩ | ⟨_, _, -, -, done⟩
    · exact large
    · cases done
  · cases left <;> cases right
    · cases raised
    all_goals exact absurd (by simp [IsReal]) mixed

/-- A fault of a division is one by zero exactly if the divisor is zero, unless an integer out of range meets a double
zero. -/
theorem divide_eq_error_iff_zero (raised : left.divide right = .error fault) :
    (fault = .divisionByZero ∨ fault = .realDivisionByZero) ↔
      right.IsZero ∧ ¬ (left.OutOfRange ∧ right.IsReal) := by
  by_cases mixed : left.IsReal ∨ right.IsReal
  · rcases (combine_eq_error_iff mixed).1 raised with
      ⟨out | out, rfl⟩ | ⟨first, second, conversion, other, raised⟩
    · -- Only integers are out of range, so the double is on the right.
      have real : right.IsReal := mixed.resolve_left fun real => by
        cases left with
        | integer => exact real
        | real => exact out
      exact iff_of_false (by simp) fun both => both.2 ⟨out, real⟩
    · refine iff_of_false (by simp) fun both => ?_
      cases right with
      | integer value =>
          obtain ⟨rfl, -⟩ := both
          exact absurd out (show ¬ (Double.ofInt 0).isInfinite = true by decide)
      | real value => exact out
    · have within : ¬ left.OutOfRange := fun out => by
        rw [toDouble_eq_error_iff.2 ⟨out, rfl⟩] at conversion
        cases conversion
      unfold divideReals at raised
      split at raised <;> cases raised
      rename_i zero
      exact iff_of_true (.inr rfl) ⟨(isZero_toDouble other).1 zero, fun both => within both.1⟩
  · cases left with
    | real => exact absurd (.inl trivial) mixed
    | integer first =>
        cases right with
        | real => exact absurd (.inr trivial) mixed
        | integer second =>
            simp only [divide, combine, divideIntegers] at raised
            split at raised
            · rename_i zero
              cases raised
              exact iff_of_true (.inl rfl) ⟨zero, fun both => both.2⟩
            · rename_i nonzero
              split at raised <;> cases raised
              exact iff_of_false (by simp) fun both => nonzero both.1

end Number

namespace Expression

open ParserAlgebra.Language ParserAlgebra.Parser Text

variable {source : Text} {tree : Expression} {operator : Text} {left right : Number} {fault : Fault}

/-- An operation on two values raises a fault. -/
def Raises (operator : Text) (left right : Number) (fault : Fault) : Prop :=
  ∃ operation, operation? operator = some operation ∧ operation left right = .error fault

/-- The first error of an evaluation that goes from left to right and takes operands first: an operation on
the values of its operands raises a fault, and nothing before it did. -/
inductive FirstError : Expression → Text → Number → Number → Fault → Prop where
  | left {outer operator : Text} {first second : Expression} {left right : Number} {fault : Fault}
      (inner : FirstError first operator left right fault) :
      FirstError (binary outer first second) operator left right fault
  | right {outer operator : Text} {first second : Expression} {value left right : Number} {fault : Fault}
      (before : first.compute = .ok value) (inner : FirstError second operator left right fault) :
      FirstError (binary outer first second) operator left right fault
  | operand {operator : Text} {operand : Expression} {left right : Number} {fault : Fault}
      (inner : FirstError operand operator left right fault) :
      FirstError (negation operand) operator left right fault
  | operation {operator : Text} {first second : Expression} {left right : Number} {fault : Fault}
      (before : first.compute = .ok left) (behind : second.compute = .ok right)
      (raised : Raises operator left right fault) :
      FirstError (binary operator first second) operator left right fault

/-- An evaluation with known operators raises the fault of its first error. -/
theorem compute_eq_error_iff (known : tree.Known) :
    tree.compute = .error fault ↔ ∃ operator left right, FirstError tree operator left right fault := by
  constructor
  · intro raised
    induction tree with
    | number value => cases raised
    | binary operator first second firstHypothesis secondHypothesis =>
        obtain ⟨member, firstKnown, secondKnown⟩ := known
        obtain ⟨operation, found, -⟩ := known_operation member
        simp only [compute, found, bind_eq_error] at raised
        rcases raised with here | ⟨left, before, here | ⟨right, behind, here⟩⟩
        · obtain ⟨_, _, _, inner⟩ := firstHypothesis firstKnown here
          exact ⟨_, _, _, .left inner⟩
        · obtain ⟨_, _, _, inner⟩ := secondHypothesis secondKnown here
          exact ⟨_, _, _, .right before inner⟩
        · exact ⟨operator, left, right, .operation before behind ⟨operation, found, here⟩⟩
    | negation operand inductionHypothesis =>
        simp only [compute, bind_eq_error] at raised
        rcases raised with here | ⟨value, -, done⟩
        · obtain ⟨_, _, _, inner⟩ := inductionHypothesis known here
          exact ⟨_, _, _, .operand inner⟩
        · cases done
  · rintro ⟨operator, left, right, first⟩
    induction first with
    | left inner inductionHypothesis =>
        obtain ⟨member, firstKnown, -⟩ := known
        obtain ⟨operation, found, -⟩ := known_operation member
        simp only [compute, found, inductionHypothesis firstKnown]
        rfl
    | right before inner inductionHypothesis =>
        obtain ⟨member, -, secondKnown⟩ := known
        obtain ⟨operation, found, -⟩ := known_operation member
        simp only [compute, found, before, inductionHypothesis secondKnown]
        rfl
    | operand inner inductionHypothesis =>
        simp only [compute, inductionHypothesis known]
        rfl
    | operation before behind raised =>
        obtain ⟨operation, found, raised⟩ := raised
        simp only [compute, found, before, behind]
        exact raised

/-- A fault of the other operations is no division by zero. -/
theorem Raises.divides (raised : Raises operator left right fault)
    (zero : fault = .divisionByZero ∨ fault = .realDivisionByZero) : operator = "/" := by
  obtain ⟨operation, found, raised⟩ := raised
  by_contra other
  have large : fault = .integerTooLarge := by
    rw [operation?, if_neg other] at found
    split_ifs at found <;> cases found <;> exact Number.combine_eq_error raised
  rcases zero with rfl | rfl <;> cases large

/-- The first error is what its operation raised. -/
theorem FirstError.raises (first : FirstError tree operator left right fault) : Raises operator left right fault := by
  induction first with
  | left _ inductionHypothesis => exact inductionHypothesis
  | right _ _ inductionHypothesis => exact inductionHypothesis
  | operand _ inductionHypothesis => exact inductionHypothesis
  | operation _ _ raised => exact raised

/-- A computation stops at a division by zero exactly if the first error is one. -/
theorem compute_zero_iff (known : tree.Known) :
    (tree.compute = .error .divisionByZero ∨ tree.compute = .error .realDivisionByZero) ↔
      ∃ left right fault, FirstError tree "/" left right fault ∧ right.IsZero ∧
        ¬ (left.OutOfRange ∧ right.IsReal) := by
  constructor
  · intro raised
    have some : ∃ fault, tree.compute = .error fault ∧
        (fault = .divisionByZero ∨ fault = .realDivisionByZero) := by
      rcases raised with raised | raised
      · exact ⟨_, raised, .inl rfl⟩
      · exact ⟨_, raised, .inr rfl⟩
    obtain ⟨fault, raised, zero⟩ := some
    obtain ⟨operator, left, right, first⟩ := (compute_eq_error_iff known).1 raised
    obtain rfl := first.raises.divides zero
    obtain ⟨operation, found, raised⟩ := first.raises
    cases found
    exact ⟨left, right, fault, first, (Number.divide_eq_error_iff_zero raised).1 zero⟩
  · rintro ⟨left, right, fault, first, zero⟩
    have computed := (compute_eq_error_iff known).2 ⟨_, left, right, first⟩
    obtain ⟨operation, found, raised⟩ := first.raises
    cases found
    rcases (Number.divide_eq_error_iff_zero raised).2 zero with rfl | rfl
    · exact .inl computed
    · exact .inr computed

/-- Divisions by zero become failures. -/
theorem verdict_eq_failure_iff {reason : Failure} : tree.verdict = .failure reason ↔
    reason = zeroDivision ∧
      (tree.compute = .error .divisionByZero ∨ tree.compute = .error .realDivisionByZero) := by
  constructor
  · intro failed
    refine ⟨verdict_eq_failure failed, ?_⟩
    unfold verdict at failed
    split at failed <;> cases failed
    · exact .inl (by assumption)
    · exact .inr (by assumption)
  · rintro ⟨rfl, raised | raised⟩
    · rw [verdict, raised]
    · rw [verdict, raised]

theorem verdict_eq_ok_iff {value : Number} : tree.verdict = .ok value ↔ tree.compute = .ok value := by
  constructor
  · intro computed
    unfold verdict at computed
    split at computed <;> cases computed
    assumption
  · intro computed
    rw [verdict, computed]

/-- The calculator computes the tree that was parsed, and reports a syntax error as it is. -/
theorem value_evaluate (source : Text) : (evaluate source).value =
    match wholeExpression.parse source with
    | .success tree _ => tree.verdict
    | .failure reason => .failure reason
    | .fault fault => .fault fault := by
  have run : (evaluate source).value = (run source calculation).value := rfl
  have described : Described zeroDivision := ⟨_, rfl⟩
  rw [run, value_run_composed (composed_calculation described), calculation, parse_andThen]
  cases wholeExpression.parse source with
  | success tree rest =>
      rw [Outcome.andThen_success, parse_fromVerdict, Logged.value_pure]
      dsimp only
      cases tree.verdict <;> rfl
  | failure reason => rfl
  | fault fault => rfl

/-- Errors of the syntax are kept apart from those of the computation, of which the first one is reported. -/
theorem evaluate_answers (source : Text) :
    match wholeExpression.parse source with
    | .failure reason => (evaluate source).value = .failure reason
    | .fault _ => False
    | .success tree _ =>
        tree.Known ∧ (∀ operator, tree.compute ≠ .error (.unknownOperator operator)) ∧
        (∀ value, (evaluate source).value = .ok value ↔ tree.compute = .ok value) ∧
        (∀ reason, (evaluate source).value = .failure reason ↔
          reason = zeroDivision ∧ ∃ left right fault, FirstError tree "/" left right fault ∧
            right.IsZero ∧ ¬ (left.OutOfRange ∧ right.IsReal)) ∧
        (∀ fault, (evaluate source).value = .fault fault ↔
          (fault = .quotientTooLarge ∨ fault = .integerTooLarge) ∧ tree.compute = .error fault) := by
  have answer := value_evaluate source
  cases parsed : wholeExpression.parse source with
  | failure reason =>
      rw [parsed] at answer
      exact answer
  | fault fault => exact steady_wholeExpression parsed
  | success tree rest =>
      rw [parsed] at answer
      dsimp only at answer ⊢
      have known := known_of_parse parsed
      refine ⟨known, ?_, ?_, ?_, ?_⟩
      · intro operator raised
        have listed := compute_eq_error known raised
        simp [computationFaults] at listed
      · intro value
        rw [answer, verdict_eq_ok_iff]
      · intro reason
        rw [answer, verdict_eq_failure_iff, compute_zero_iff known]
      · intro fault
        rw [answer, verdict_eq_fault, and_comm (a := _ ∨ _)]
        refine and_congr_right fun raised => ?_
        have listed := compute_eq_error known raised
        simp only [computationFaults, List.mem_cons, List.not_mem_nil, or_false] at listed
        rcases listed with rfl | rfl | rfl | rfl <;> simp

/-- The division of an integer that is out of range by a double zero is no failure. -/
theorem integer_divided_by_real_zero :
    let digits : Text := CodePoint.scalar '1' :: List.replicate 309 (CodePoint.scalar '0')
    let left := Number.integer (numeralValue digits)
    let right := Number.real (Double.zero false)
    let tree := binary "/" (number left) (number right)
    wholeExpression.parse (digits ++ ("/0.0" : Text)) = .success tree [] ∧ right.IsZero ∧
      FirstError tree "/" left right .integerTooLarge ∧
      (evaluate (digits ++ ("/0.0" : Text))).value = .fault .integerTooLarge := by
  intro digits left right tree
  have raised : Number.divide left right = .error .integerTooLarge := by decide +kernel
  refine ⟨by decide +kernel, rfl, ?_, by decide +kernel⟩
  exact .operation rfl rfl ⟨_, rfl, raised⟩

end Expression

end ParserAlgebra
