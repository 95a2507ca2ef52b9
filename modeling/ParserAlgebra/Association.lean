namespace ParserAlgebra.Association

variable {κ ν : Type} [BEq κ]

/-- This function finds the value of a key. -/
def find? (key : κ) : List (κ × ν) → Option ν
  | [] => none
  | (present, value) :: entries => if present == key then some value else find? key entries

/-- This function sets the value of a key, which keeps its place if it is present and goes to the end if it is new. -/
def insert (key : κ) (value : ν) : List (κ × ν) → List (κ × ν)
  | [] => [(key, value)]
  | (present, old) :: entries =>
      if present == key then (present, value) :: entries
      else (present, old) :: insert key value entries

/-- This function collects pairs, where a repeated key keeps its first place and takes its last value. -/
def ofPairs (pairs : List (κ × ν)) : List (κ × ν) :=
  pairs.foldl (fun entries pair => insert pair.1 pair.2 entries) []

@[simp] theorem find?_insert_self [LawfulBEq κ] (key : κ) (value : ν) (entries : List (κ × ν)) :
    find? key (insert key value entries) = some value := by
  induction entries with
  | nil => simp [insert, find?]
  | cons entry entries inductionHypothesis =>
      by_cases same : entry.1 = key <;> simp [insert, find?, same, inductionHypothesis]

theorem find?_insert_of_ne [LawfulBEq κ] {key other : κ} (different : other ≠ key) (value : ν)
    (entries : List (κ × ν)) :
    find? other (insert key value entries) = find? other entries := by
  induction entries with
  | nil => simp [insert, find?, Ne.symm different]
  | cons entry entries inductionHypothesis =>
      by_cases same : entry.1 = key
      · simp [insert, find?, same, Ne.symm different]
      · simp [insert, find?, same, inductionHypothesis]

end ParserAlgebra.Association
