import ParserAlgebra.Failure

namespace ParserAlgebra

/-- The part of the library that writes a log entry. -/
inductive Channel where
  | engine
  | json
  | calculator
  | wallet
  deriving DecidableEq

structure LogEntry where
  channel : Channel
  message : Text
  deriving DecidableEq

/-- A value with the log entries written while it was computed, oldest first. -/
structure Logged (α : Type) where
  value : α
  log : List LogEntry := []

namespace Logged

/-- This value computes nothing and writes one entry. -/
def tell (channel : Channel) (message : Text) : Logged Unit :=
  ⟨(), [⟨channel, message⟩]⟩

instance : Monad Logged where
  pure value := ⟨value, []⟩
  bind first next :=
    let second := next first.value
    ⟨second.value, first.log ++ second.log⟩

variable {α β : Type}

@[simp] theorem value_pure (value : α) : (pure value : Logged α).value = value := rfl

@[simp] theorem value_bind (first : Logged α) (next : α → Logged β) :
    (first >>= next).value = (next first.value).value := rfl

@[simp] theorem log_pure (value : α) : (pure value : Logged α).log = [] := rfl

@[simp] theorem log_bind (first : Logged α) (next : α → Logged β) :
    (first >>= next).log = first.log ++ (next first.value).log := rfl

end Logged

/-- The outcome of one parsing step. -/
inductive Outcome (α : Type) where
  /-- A value was read and `rest` is the unconsumed input. -/
  | success (value : α) (rest : Text)
  | failure (reason : Failure)
  | fault (reason : Fault)
  deriving DecidableEq

/-- The verdict on a whole input, where the unconsumed input is forgotten. -/
inductive Verdict (α : Type) where
  | ok (value : α)
  | failure (reason : Failure)
  | fault (reason : Fault)
  deriving DecidableEq

namespace Outcome

variable {α β : Type}

/-- This function goes on with the value and the rest of a success. -/
def andThen (outcome : Outcome α) (next : α → Text → Outcome β) : Outcome β :=
  match outcome with
  | success value rest => next value rest
  | failure reason => failure reason
  | fault reason => fault reason

@[simp] theorem andThen_success (value : α) (rest : Text) (next : α → Text → Outcome β) :
    (success value rest).andThen next = next value rest := rfl

@[simp] theorem andThen_failure (reason : Failure) (next : α → Text → Outcome β) :
    (failure reason : Outcome α).andThen next = failure reason := rfl

@[simp] theorem andThen_fault (reason : Fault) (next : α → Text → Outcome β) :
    (fault reason : Outcome α).andThen next = fault reason := rfl

theorem andThen_assoc {γ : Type} (outcome : Outcome α) (next : α → Text → Outcome β)
    (last : β → Text → Outcome γ) :
    (outcome.andThen next).andThen last =
      outcome.andThen fun value rest => (next value rest).andThen last := by
  cases outcome <;> rfl

/-- A sequence succeeds if both of its parts do. -/
theorem andThen_eq_success {outcome : Outcome α} {next : α → Text → Outcome β} {value : β}
    {rest : Text} :
    outcome.andThen next = success value rest ↔
      ∃ first middle, outcome = success first middle ∧ next first middle = success value rest := by
  constructor
  · intro succeeded
    cases outcome with
    | success first middle => exact ⟨first, middle, rfl, succeeded⟩
    | failure reason => cases succeeded
    | fault reason => cases succeeded
  · rintro ⟨first, middle, rfl, succeeded⟩
    exact succeeded

/-- A sequence fails if its first part does, or if the second part fails on the rest. -/
theorem andThen_eq_failure {outcome : Outcome α} {next : α → Text → Outcome β}
    {reason : Failure} :
    outcome.andThen next = failure reason ↔
      outcome = failure reason ∨
        ∃ first middle, outcome = success first middle ∧ next first middle = failure reason := by
  constructor
  · intro failed
    cases outcome with
    | success first middle => exact .inr ⟨first, middle, rfl, failed⟩
    | failure first => exact .inl (by simpa using failed)
    | fault reason => cases failed
  · rintro (rfl | ⟨first, middle, rfl, failed⟩)
    · rfl
    · exact failed

/-- A sequence raises a fault if its first part does, or if the second part does on the rest. -/
theorem andThen_eq_fault {outcome : Outcome α} {next : α → Text → Outcome β} {reason : Fault} :
    outcome.andThen next = fault reason ↔
      outcome = fault reason ∨
        ∃ first middle, outcome = success first middle ∧ next first middle = fault reason := by
  constructor
  · intro raised
    cases outcome with
    | success first middle => exact .inr ⟨first, middle, rfl, raised⟩
    | failure reason => cases raised
    | fault first => exact .inl (by simpa using raised)
  · rintro (rfl | ⟨first, middle, rfl, raised⟩)
    · rfl
    · exact raised

/-- This function replaces a failure and keeps a success or a fault. -/
def orElse (outcome : Outcome α) (alternative : Failure → Outcome α) : Outcome α :=
  match outcome with
  | success value rest => success value rest
  | failure reason => alternative reason
  | fault reason => fault reason

@[simp] theorem orElse_success (value : α) (rest : Text) (alternative : Failure → Outcome α) :
    (success value rest).orElse alternative = success value rest := rfl

@[simp] theorem orElse_failure (reason : Failure) (alternative : Failure → Outcome α) :
    (failure reason : Outcome α).orElse alternative = alternative reason := rfl

@[simp] theorem orElse_fault (reason : Fault) (alternative : Failure → Outcome α) :
    (fault reason : Outcome α).orElse alternative = fault reason := rfl

/-- A choice succeeds with its first part, or with the alternative to a failure. -/
theorem orElse_eq_success {outcome : Outcome α} {alternative : Failure → Outcome α} {value : α}
    {rest : Text} :
    outcome.orElse alternative = success value rest ↔
      outcome = success value rest ∨
        ∃ reason, outcome = failure reason ∧ alternative reason = success value rest := by
  cases outcome <;> simp

theorem orElse_eq_failure {outcome : Outcome α} {alternative : Failure → Outcome α}
    {reason : Failure} :
    outcome.orElse alternative = failure reason ↔
      ∃ first, outcome = failure first ∧ alternative first = failure reason := by
  cases outcome <;> simp

/-- A choice raises the fault of its first part, or of the alternative to a failure. -/
theorem orElse_eq_fault {outcome : Outcome α} {alternative : Failure → Outcome α}
    {reason : Fault} :
    outcome.orElse alternative = fault reason ↔
      outcome = fault reason ∨
        ∃ first, outcome = failure first ∧ alternative first = fault reason := by
  cases outcome <;> simp

/-- This function forgets the unconsumed input. -/
def verdict : Outcome α → Verdict α
  | success value _ => .ok value
  | failure reason => .failure reason
  | fault reason => .fault reason

end Outcome

end ParserAlgebra
