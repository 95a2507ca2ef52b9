import ParserAlgebra.Association

namespace ParserAlgebra.Association

variable {κ ν : Type} [BEq κ]

/-- Entries collect pairs if they have the distinct keys of the pairs, in order of first arrival, and
each key has the value of its last pair. -/
structure Collects (pairs entries : List (κ × ν)) : Prop where
  keys : entries.map Prod.fst = (pairs.map Prod.fst).eraseDups
  values : ∀ key, find? key entries = find? key pairs.reverse

theorem ofPairs_append (pairs : List (κ × ν)) (pair : κ × ν) :
    ofPairs (pairs ++ [pair]) = insert pair.1 pair.2 (ofPairs pairs) := by
  simp [ofPairs]

variable [LawfulBEq κ]

theorem nodup_eraseDups (keys : List κ) : keys.eraseDups.Nodup := by
  induction bound : keys.length using Nat.strongRecOn generalizing keys with
  | ind bound inductionHypothesis =>
      subst bound
      cases keys with
      | nil => simp
      | cons key keys =>
          have shorter : (keys.filter fun other => !other == key).length < (key :: keys).length :=
            Nat.lt_succ_of_le (List.length_filter_le _ _)
          rw [List.eraseDups_cons, List.nodup_cons]
          refine ⟨by simp, inductionHypothesis _ shorter _ rfl⟩

/-- A key that no entry has is not found. -/
theorem find?_eq_none {key : κ} {entries : List (κ × ν)} (absent : key ∉ entries.map Prod.fst) :
    find? key entries = none := by
  induction entries with
  | nil => rfl
  | cons entry entries inductionHypothesis =>
      simp only [List.map_cons, List.mem_cons, not_or] at absent
      obtain ⟨different, absent⟩ := absent
      simp [find?, Ne.symm different, inductionHypothesis absent]

theorem keys_insert (key : κ) (value : ν) (entries : List (κ × ν)) :
    (insert key value entries).map Prod.fst =
      if key ∈ entries.map Prod.fst then entries.map Prod.fst
      else entries.map Prod.fst ++ [key] := by
  induction entries with
  | nil => simp [insert]
  | cons entry entries inductionHypothesis =>
      by_cases same : entry.1 = key
      · simp [insert, same]
      · have other : ¬ key = entry.1 := fun equal => same equal.symm
        by_cases present : key ∈ entries.map Prod.fst
        · simp [insert, same, inductionHypothesis, present]
        · simp [insert, same, other, inductionHypothesis, present]

/-- Distinct keys and the values of all keys determine the entries. -/
theorem eq_of_find?_eq {entries others : List (κ × ν)} (distinct : (entries.map Prod.fst).Nodup)
    (keys : entries.map Prod.fst = others.map Prod.fst)
    (values : ∀ key, find? key entries = find? key others) : entries = others := by
  induction entries generalizing others with
  | nil =>
      cases others with
      | nil => rfl
      | cons other others => cases keys
  | cons entry entries inductionHypothesis =>
      cases others with
      | nil => cases keys
      | cons other others =>
          simp only [List.map_cons, List.cons.injEq] at keys
          obtain ⟨same, keys⟩ := keys
          rw [List.map_cons, List.nodup_cons] at distinct
          obtain ⟨fresh, distinct⟩ := distinct
          have value : entry.2 = other.2 := by simpa [find?, same] using values entry.1
          have behind : ∀ key, find? key entries = find? key others := by
            intro key
            by_cases here : key = entry.1
            · subst here
              rw [find?_eq_none fresh, find?_eq_none (keys ▸ fresh)]
            · have there : ¬ entry.1 = key := fun equal => here equal.symm
              simpa [find?, there, same ▸ there] using values key
          rw [inductionHypothesis distinct keys behind, Prod.ext same value]

/-- A key at the end is new, or it was there before. -/
theorem eraseDups_concat (keys : List κ) (key : κ) :
    (keys ++ [key]).eraseDups = if key ∈ keys.eraseDups then keys.eraseDups else keys.eraseDups ++ [key] := by
  rw [List.eraseDups_append]
  by_cases present : key ∈ keys
  · simp [present, List.removeAll]
  · simp [present, List.removeAll, List.eraseDups_cons]

theorem keys_ofPairs (pairs : List (κ × ν)) :
    (ofPairs pairs.reverse).map Prod.fst = (pairs.reverse.map Prod.fst).eraseDups := by
  induction pairs with
  | nil => rfl
  | cons pair pairs inductionHypothesis =>
      rw [List.reverse_cons, ofPairs_append, keys_insert, inductionHypothesis, List.map_append,
        List.map_singleton, eraseDups_concat]

theorem find?_ofPairs (key : κ) (pairs : List (κ × ν)) :
    find? key (ofPairs pairs.reverse) = find? key pairs := by
  induction pairs with
  | nil => rfl
  | cons pair pairs inductionHypothesis =>
      rw [List.reverse_cons, ofPairs_append]
      by_cases same : key = pair.1
      · subst same
        simp [find?]
      · have other : ¬ pair.1 = key := fun equal => same equal.symm
        rw [find?_insert_of_ne same, inductionHypothesis]
        simp [find?, other]

/-- Pairs are collected in exactly one list. -/
theorem ofPairs_eq_iff {pairs entries : List (κ × ν)} :
    ofPairs pairs = entries ↔ Collects pairs entries := by
  have keys := keys_ofPairs pairs.reverse
  have values : ∀ key, find? key (ofPairs pairs) = find? key pairs.reverse := by
    intro key
    simpa using find?_ofPairs key pairs.reverse
  rw [List.reverse_reverse] at keys
  constructor
  · rintro rfl
    exact ⟨keys, values⟩
  · intro collects
    apply eq_of_find?_eq
    · rw [keys]
      exact nodup_eraseDups _
    · rw [keys, collects.keys]
    · intro key
      rw [values, collects.values]

end ParserAlgebra.Association
