import ParserAlgebra.Proofs.Parser.Mirror

namespace ParserAlgebra.Parser

variable {α : Type} {permitted : Text → Prop} {source : Text}

/-- This parser calls another one and writes the input of the call into the log. -/
def watched (parser : Parser α) : Parser α :=
  delayed fun source => do
    Logged.tell .engine source
    parser.step source

theorem Mirrors.watched {copy original : Parser α} (here : permitted source)
    (inner : Mirrors permitted copy original source) : Mirrors permitted (watched copy) original source := by
  refine ⟨inner.same, fun entry member => ?_⟩
  rcases List.mem_cons.1 member with rfl | behind
  · exact here
  · exact inner.noted entry behind

theorem MirrorsBelow.watched {copy original : Parser α}
    (allowed : ∀ rest, ProperEnd rest source → permitted rest)
    (below : MirrorsBelow permitted copy original source) :
    MirrorsBelow permitted (watched copy) original source :=
  fun rest proper => .watched (allowed rest proper) (below rest proper)

/-- Each turn of the body of a recursive parser calls the parser on proper ends of the input only. -/
def Descends (copied body : Parser α → Parser α) : Prop :=
  ∀ ⦃permitted : Text → Prop⦄ ⦃copy : Parser α⦄ ⦃source : Text⦄,
    (∀ rest, ProperEnd rest source → permitted rest) → MirrorsBelow permitted copy (fix body) source →
      Mirrors permitted (copied copy) (body (fix body)) source

/-- A copy whose log holds the inputs of all calls does what a recursive parser does, and each call is left
with a proper end of the whole input. -/
def CallsBelow (copy parser : Parser α) : Prop :=
  ∀ source, copy.parse source = parser.parse source ∧
    ∀ entry ∈ (copy.step source).log, ProperEnd entry.message source

/-- This function unrolls a recursive parser as deep as the number says, and a deeper call raises a fault. -/
def unroll (body : Parser α → Parser α) : Nat → Parser α
  | 0 => body (abort .unboundedRecursion)
  | depth + 1 => body (delayed (unroll body depth).step)

/-- Calls nested as deep as the input is long are enough for a parser: with this limit it does what it does
without, and no call is refused. -/
def NestsWithinLength (limited : Nat → Parser α) (parser : Parser α) : Prop :=
  ∀ source, (limited source.length).parse source = parser.parse source ∧
    parser.parse source ≠ .fault .unboundedRecursion

theorem step_fix (body : Parser α → Parser α) (source : Text) :
    (fix body).step source = (body ((fix body).below source.length)).step source := by
  simp only [fix, below]
  rw [fixStep]

theorem step_below {bound : Nat} {parser : Parser α} {rest : Text} (shorter : rest.length < bound) :
    (parser.below bound).step rest = parser.step rest := by
  simp only [below, delayed, if_pos shorter]

namespace Descends

variable {copied body : Parser α → Parser α}

/-- A body does with a copy of its recursive parser what it does with the parser itself, if the copy gives the
same outcomes on proper ends of the input. -/
theorem parse_eq {copy : Parser α} (descends : Descends body body)
    (same : ∀ rest, ProperEnd rest source → copy.parse rest = (fix body).parse rest) :
    (body copy).parse source = (body (fix body)).parse source :=
  (descends (fun _ _ => trivial) fun rest proper => .of_parse_eq (same rest proper)).parse_eq

/-- A recursive parser that descends is a fixed point of its body, since no call is refused. -/
theorem parse_fix_eq (descends : Descends body body) (source : Text) :
    (fix body).parse source = (body (fix body)).parse source := by
  rw [parse_fix]
  refine descends.parse_eq fun rest proper => ?_
  rw [parse_below, if_pos proper.2]

/-- All calls, however deep, are left with proper ends of the whole input. -/
theorem mirrors_fix (descends : Descends body body) (watches : Descends copied body) (source : Text) :
    Mirrors (ProperEnd · source) (fix copied) (fix body) source := by
  -- A call inside a call is left with an end of an end.
  induction bound : source.length using Nat.strongRecOn generalizing source with
  | ind bound inductionHypothesis =>
      subst bound
      have below : MirrorsBelow (ProperEnd · source) ((fix copied).below source.length) (fix body) source := by
        intro rest proper
        rw [Mirrors, step_below proper.2]
        have inner := inductionHypothesis rest.length proper.2 rest rfl
        exact inner.mono fun deeper => proper.trans_suffix deeper.1
      have turn := watches (fun _ proper => proper) below
      rw [Mirrors, step_fix]
      exact ⟨turn.same.trans (descends.parse_fix_eq source).symm, turn.noted⟩

theorem callsBelow (descends : Descends body body) (watches : Descends copied body) :
    CallsBelow (fix copied) (fix body) := by
  intro source
  have mirrors := descends.mirrors_fix watches source
  exact ⟨mirrors.same, mirrors.noted⟩

/-- A recursive parser that descends nests its calls no deeper than its input is long. -/
theorem parse_unroll (descends : Descends body body) {depth : Nat} (enough : source.length ≤ depth) :
    (unroll body depth).parse source = (fix body).parse source := by
  rw [descends.parse_fix_eq]
  induction depth generalizing source with
  | zero =>
      refine descends.parse_eq fun rest proper => ?_
      have shorter := proper.2
      omega
  | succ depth inductionHypothesis =>
      refine descends.parse_eq fun rest proper => ?_
      have shorter := proper.2
      rw [parse_delayed, descends.parse_fix_eq]
      exact inductionHypothesis (by omega)

/-- The unrolled parser mirrors the recursive one wherever another parser may call it. -/
theorem mirrors_unroll (descends : Descends body body) (source : Text) :
    MirrorsEnds (fun _ => True) (unroll body source.length) (fix body) source :=
  fun _ within => .of_parse_eq (descends.parse_unroll within.length_le)

end Descends

end ParserAlgebra.Parser
