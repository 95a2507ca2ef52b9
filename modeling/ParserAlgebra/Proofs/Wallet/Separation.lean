import ParserAlgebra.Proofs.Wallet.Totals

namespace ParserAlgebra.Wallet

variable {currency : Text} {entries others : List Money} {money : Money} {sums otherSums : List (Text × Decimal)}

/-- This function keeps the entries in one currency. -/
def entriesIn (currency : Text) (entries : List Money) : List Money :=
  entries.filter fun money => money.currency = currency

/-- This function keeps the total of one currency. -/
def totalIn (currency : Text) (sums : List (Text × Decimal)) : List (Text × Decimal) :=
  ((Association.find? currency sums).map fun total => (currency, total)).toList

theorem entriesIn_concat_of_eq (same : money.currency = currency) :
    entriesIn currency (entries ++ [money]) = entriesIn currency entries ++ [money] := by
  simp [entriesIn, List.filter_append, same]

theorem entriesIn_concat_of_ne (other : currency ≠ money.currency) :
    entriesIn currency (entries ++ [money]) = entriesIn currency entries := by
  simp [entriesIn, List.filter_append, other.symm]

/-- A currency has entries if some entry is in it. -/
theorem mem_currencies_iff : currency ∈ entries.map Money.currency ↔ entriesIn currency entries ≠ [] := by
  simp [entriesIn, List.filter_eq_nil_iff]

theorem find?_totalIn (currency : Text) (sums : List (Text × Decimal)) :
    Association.find? currency (totalIn currency sums) = Association.find? currency sums := by
  cases found : Association.find? currency sums <;> simp [totalIn, found, Association.find?]

theorem insert_totalIn (currency : Text) (total : Decimal) (sums : List (Text × Decimal)) :
    Association.insert currency total (totalIn currency sums) =
      totalIn currency (Association.insert currency total sums) := by
  cases found : Association.find? currency sums <;> simp [totalIn, found, Association.insert]

/-- An entry is added to the total of its currency, whether the other totals are there or not. -/
theorem addTotal_totalIn : addTotal (totalIn money.currency sums) money =
    (addTotal sums money).map (totalIn money.currency) := by
  rw [addTotal, addTotal, find?_totalIn]
  cases ((Association.find? money.currency sums).getD (.finite false 0 0)).add money.amount with
  | error fault => rfl
  | ok sum => exact congrArg Except.ok (insert_totalIn money.currency sum sums)

/-- The total of a currency does not change when an entry in another currency is added. -/
theorem totalIn_addTotal_of_ne (other : currency ≠ money.currency) (added : addTotal sums money = .ok otherSums) :
    totalIn currency otherSums = totalIn currency sums := by
  obtain ⟨sum, -, rfl⟩ := addTotal_eq_ok.1 added
  rw [totalIn, Association.find?_insert_of_ne other, totalIn]

/-- The entries in one currency have the total of this currency, and no other one. -/
theorem totals_entriesIn (summed : totals ⟨entries⟩ = .ok sums) :
    totals ⟨entriesIn currency entries⟩ = .ok (totalIn currency sums) := by
  induction entries using List.reverseRecOn generalizing sums with
  | nil =>
      cases summed
      rfl
  | append_singleton entries money inductionHypothesis =>
      obtain ⟨front, before, added⟩ := totals_concat_eq_ok.1 summed
      have alone := inductionHypothesis before
      by_cases same : currency = money.currency
      · subst same
        rw [entriesIn_concat_of_eq rfl, totals_concat_eq_ok]
        exact ⟨_, alone, by rw [addTotal_totalIn, added]; rfl⟩
      · rw [entriesIn_concat_of_ne same, alone, totalIn_addTotal_of_ne same added]

/-- Entries have totals if and only if the entries in each currency have one. -/
theorem exists_totals_iff : (∃ sums, totals ⟨entries⟩ = .ok sums) ↔
    ∀ currency, ∃ sums, totals ⟨entriesIn currency entries⟩ = .ok sums := by
  constructor
  · rintro ⟨sums, summed⟩ currency
    exact ⟨_, totals_entriesIn summed⟩
  · intro alone
    induction entries using List.reverseRecOn with
    | nil => exact ⟨[], rfl⟩
    | append_singleton entries money inductionHypothesis =>
        obtain ⟨last, summed⟩ := alone money.currency
        rw [entriesIn_concat_of_eq rfl] at summed
        obtain ⟨kept, first, added⟩ := totals_concat_eq_ok.1 summed
        have before : ∀ currency, ∃ sums, totals ⟨entriesIn currency entries⟩ = .ok sums := by
          intro currency
          by_cases same : currency = money.currency
          · exact ⟨kept, same ▸ first⟩
          · simpa only [entriesIn_concat_of_ne same] using alone currency
        obtain ⟨front, here⟩ := inductionHypothesis before
        cases first.symm.trans (totals_entriesIn here)
        rw [addTotal_totalIn] at added
        cases result : addTotal front money with
        | ok sums => exact ⟨sums, totals_concat_eq_ok.2 ⟨front, here, result⟩⟩
        | error fault =>
            rw [result] at added
            cases added

/-- A dollar has no total beside euros past the largest exponent, although it has one alone. -/
theorem total_missing :
    let dollar : Money := ⟨.finite false 1 0, "USD"⟩
    let euros : Money := ⟨.finite false 1 1000000, "EUR"⟩
    entriesIn "USD" [dollar] = entriesIn "USD" [dollar, euros] ∧
      totals ⟨[dollar]⟩ = .ok [("USD", .finite false 1 0)] ∧
      totals ⟨[dollar, euros]⟩ = .error .decimalOverflow := by
  intro dollar euros
  have alone : totals ⟨[dollar]⟩ = .ok [("USD", .finite false 1 0)] := by decide +kernel
  have zero : (Decimal.finite false 0 0).Denotes 0 := ⟨_, _, _, rfl, by simp [Decimal.value]⟩
  obtain ⟨negative, coefficient, exponent, added, value⟩ := Decimal.add_exact zero ⟨false, 1, 1000000, rfl, rfl⟩
  have overflow : (Decimal.finite false 0 0).add euros.amount = .error .decimalOverflow := by
    rw [added]
    apply Decimal.round_overflow
    rw [← Decimal.abs_value negative, value, zero_add, Decimal.abs_value, Nat.cast_one, one_mul]
    exact le_rfl
  have last : addTotal [("USD", .finite false 1 0)] euros = .error .decimalOverflow := by
    have absent : Association.find? euros.currency [(("USD" : Text), Decimal.finite false 1 0)] = none := by decide
    rw [addTotal, absent, Option.getD_none, overflow]
    rfl
  refine ⟨by decide, alone, ?_⟩
  have front : [dollar, euros] = [dollar] ++ [euros] := rfl
  rw [front, totals_concat_of_ok alone, last]

/-- Wallets that have totals and the same entries in a currency have the same total of it, or both have none. -/
theorem totals_separate (entries : List Money) :
    ((∃ sums, totals ⟨entries⟩ = .ok sums) ↔
      ∀ currency, ∃ sums, totals ⟨entriesIn currency entries⟩ = .ok sums) ∧
    ∀ sums, totals ⟨entries⟩ = .ok sums →
      sums.map Prod.fst = (entries.map Money.currency).eraseDups ∧ (sums.map Prod.fst).Nodup ∧
      ∀ others otherSums currency, totals ⟨others⟩ = .ok otherSums →
        entriesIn currency entries = entriesIn currency others →
          (currency ∈ sums.map Prod.fst ↔ currency ∈ otherSums.map Prod.fst) ∧
            Association.find? currency sums = Association.find? currency otherSums := by
  refine ⟨exists_totals_iff, fun sums summed => ?_⟩
  have keys := keys_totals summed
  refine ⟨keys, keys ▸ Association.nodup_eraseDups _, ?_⟩
  intro others otherSums currency otherSummed same
  constructor
  · rw [keys, keys_totals otherSummed, List.mem_eraseDups, List.mem_eraseDups, mem_currencies_iff,
      mem_currencies_iff, same]
  · have alone : totals ⟨entriesIn currency entries⟩ = .ok (totalIn currency sums) := totals_entriesIn summed
    rw [same, totals_entriesIn otherSummed] at alone
    rw [← find?_totalIn currency sums, ← find?_totalIn currency otherSums, Except.ok.inj alone]

/-- The same dollars have the same rounded total in two wallets, with euros between them and francs in front. -/
theorem totals_separate_rounded :
    let large : Money := ⟨.finite false 9999999999999999999999999999 0, "USD"⟩
    let small : Money := ⟨.finite false 5 (-1), "USD"⟩
    let entries : List Money := [large, ⟨.finite false 3 0, "EUR"⟩, small]
    let others : List Money := [⟨.finite false 70 (-1), "CHF"⟩, large, small]
    let total : Decimal := .finite false 1000000000000000000000000000 1
    let sums : List (Text × Decimal) := [("USD", total), ("EUR", .finite false 3 0)]
    let otherSums : List (Text × Decimal) := [("CHF", .finite false 70 (-1)), ("USD", total)]
    totals ⟨entries⟩ = .ok sums ∧ totals ⟨others⟩ = .ok otherSums ∧
      entriesIn "USD" entries = entriesIn "USD" others ∧
      Association.find? ("USD" : Text) sums = Association.find? ("USD" : Text) otherSums ∧
      (sums.map Prod.fst).Nodup := by
  intro large small entries others total sums otherSums
  have summed : totals ⟨entries⟩ = .ok sums := by decide +kernel
  have otherSummed : totals ⟨others⟩ = .ok otherSums := by decide +kernel
  have same : entriesIn "USD" entries = entriesIn "USD" others := by decide +kernel
  obtain ⟨-, distinct, separate⟩ := (totals_separate entries).2 sums summed
  exact ⟨summed, otherSummed, same, (separate others otherSums "USD" otherSummed same).2, distinct⟩

end ParserAlgebra.Wallet
