import ParserAlgebra.Proofs.Association
import ParserAlgebra.Proofs.Number.Decimal
import ParserAlgebra.Proofs.Wallet.RoundTrip

namespace ParserAlgebra.Wallet

variable {source : Text} {wallet : Wallet} {entries : List Money} {money : Money}
  {sums others : List (Text × Decimal)}

/-- This function sums the amounts of one currency without rounding. -/
def exactSum (currency : Text) (entries : List Money) : ℚ :=
  ((entries.filter fun money => money.currency = currency).map fun money => money.amount.value).sum

theorem exactSum_concat (currency : Text) (entries : List Money) (money : Money) :
    exactSum currency (entries ++ [money]) =
      exactSum currency entries + if money.currency = currency then money.amount.value else 0 := by
  by_cases same : money.currency = currency <;> simp [exactSum, List.filter_append, same]

/-- Currencies that no entry has sum up to zero. -/
theorem exactSum_of_absent {currency : Text} (absent : currency ∉ entries.map Money.currency) :
    exactSum currency entries = 0 := by
  have none : entries.filter (fun money => money.currency = currency) = [] := by
    rw [List.filter_eq_nil_iff]
    intro money member same
    exact absent (List.mem_map.2 ⟨money, member, of_decide_eq_true same⟩)
  rw [exactSum, none, List.map_nil, List.sum_nil]

/-- Totals are exact if they belong to the currencies of the entries, in order of first appearance, and each
of them denotes the sum of the amounts in its currency. -/
structure ExactTotals (entries : List Money) (sums : List (Text × Decimal)) : Prop where
  keys : sums.map Prod.fst = (entries.map Money.currency).eraseDups
  sums : ∀ currency ∈ entries.map Money.currency, ∃ total, Association.find? currency sums = some total ∧
    total.Denotes (exactSum currency entries)

theorem totals_concat (entries : List Money) (money : Money) :
    totals ⟨entries ++ [money]⟩ = totals ⟨entries⟩ >>= fun sums => addTotal sums money := by
  simp [totals, List.foldlM_append]

theorem totals_concat_of_ok (before : totals ⟨entries⟩ = .ok sums) :
    totals ⟨entries ++ [money]⟩ = addTotal sums money := by
  rw [totals_concat, before]
  rfl

/-- Entries have totals if all but the last one do, and the last one can be added to them. -/
theorem totals_concat_eq_ok : totals ⟨entries ++ [money]⟩ = .ok others ↔
    ∃ sums, totals ⟨entries⟩ = .ok sums ∧ addTotal sums money = .ok others := by
  rw [totals_concat]
  cases totals ⟨entries⟩ <;> simp [bind, Except.bind]

/-- An entry changes the total of its currency only. -/
theorem addTotal_eq_ok : addTotal sums money = .ok others ↔
    ∃ sum, ((Association.find? money.currency sums).getD (.finite false 0 0)).add money.amount = .ok sum ∧
      others = Association.insert money.currency sum sums := by
  rw [addTotal]
  cases ((Association.find? money.currency sums).getD (.finite false 0 0)).add money.amount with
  | error fault => simp [bind, Except.bind]
  | ok sum => simp [bind, Except.bind, pure, Except.pure, eq_comm]

theorem keys_addTotal (keys : sums.map Prod.fst = (entries.map Money.currency).eraseDups)
    (added : addTotal sums money = .ok others) :
    others.map Prod.fst = ((entries ++ [money]).map Money.currency).eraseDups := by
  obtain ⟨sum, -, rfl⟩ := addTotal_eq_ok.1 added
  rw [Association.keys_insert, keys, List.map_append, List.map_singleton, Association.eraseDups_concat]

/-- The totals belong to the currencies of the entries. -/
theorem keys_totals (summed : totals ⟨entries⟩ = .ok sums) :
    sums.map Prod.fst = (entries.map Money.currency).eraseDups := by
  induction entries using List.reverseRecOn generalizing sums with
  | nil =>
      cases summed
      rfl
  | append_singleton entries money inductionHypothesis =>
      obtain ⟨front, before, added⟩ := totals_concat_eq_ok.1 summed
      exact keys_addTotal (inductionHypothesis before) added

/-- The old total of the currency of an entry denotes the sum up to the entry. -/
theorem ExactTotals.old (exact : ExactTotals entries sums) (currency : Text) :
    ((Association.find? currency sums).getD (.finite false 0 0)).Denotes (exactSum currency entries) := by
  by_cases present : currency ∈ entries.map Money.currency
  · obtain ⟨total, found, denotes⟩ := exact.sums currency present
    rw [found]
    exact denotes
  · have absent : currency ∉ sums.map Prod.fst := by
      rw [exact.keys, List.mem_eraseDups]
      exact present
    rw [Association.find?_eq_none absent, exactSum_of_absent present]
    exact ⟨false, 0, 0, rfl, by simp [Decimal.value]⟩

/-- One more entry keeps exact totals exact if the sum in its currency fits. -/
theorem addTotal_exact_iff (exact : ExactTotals entries sums) {amount : ℚ} (denotes : money.amount.Denotes amount) :
    (∃ others, addTotal sums money = .ok others ∧ ExactTotals (entries ++ [money]) others) ↔
      Decimal.Fits (exactSum money.currency (entries ++ [money])) := by
  obtain ⟨negative, coefficient, exponent, added, value⟩ :=
    Decimal.add_exact (exact.old money.currency) denotes
  have sum : (Decimal.finite negative coefficient exponent).value = exactSum money.currency (entries ++ [money]) := by
    obtain ⟨_, _, _, -, same⟩ := denotes
    rw [value, exactSum_concat, if_pos rfl, same]
  rw [← sum, ← Decimal.round_denotes_iff, sum, ← added]
  constructor
  · rintro ⟨others, done, after⟩
    obtain ⟨total, kept, rfl⟩ := addTotal_eq_ok.1 done
    obtain ⟨found, here, denotes⟩ := after.sums money.currency (by simp)
    rw [Association.find?_insert_self, Option.some.injEq] at here
    exact ⟨total, kept, here ▸ denotes⟩
  · rintro ⟨total, kept, denotes⟩
    have done := addTotal_eq_ok.2 ⟨total, kept, rfl⟩
    refine ⟨_, done, keys_addTotal exact.keys done, ?_⟩
    intro currency member
    by_cases same : currency = money.currency
    · subst same
      exact ⟨total, Association.find?_insert_self _ _ _, denotes⟩
    · have other : ¬ money.currency = currency := fun equal => same equal.symm
      have before : currency ∈ entries.map Money.currency := by simpa [same] using member
      rw [Association.find?_insert_of_ne same, exactSum_concat, if_neg other, add_zero]
      exact exact.sums currency before

/-- After one more entry the sums of all currencies fit if the sum of the last entry does. -/
theorem forall_fits_concat (before : ∀ currency, Decimal.Fits (exactSum currency entries)) (money : Money) :
    (∀ currency, Decimal.Fits (exactSum currency (entries ++ [money]))) ↔
      Decimal.Fits (exactSum money.currency (entries ++ [money])) := by
  constructor
  · intro all
    exact all money.currency
  · intro here currency
    by_cases same : money.currency = currency
    · exact same ▸ here
    · rw [exactSum_concat, if_neg same, add_zero]
      exact before currency

/-- The totals are exact after each entry if and only if the sums fit after each entry. -/
theorem totals_stages_iff (finite : ∀ money ∈ entries, ∃ amount, money.amount.Denotes amount) :
    (∀ front, front <+: entries → ∃ sums, totals ⟨front⟩ = .ok sums ∧ ExactTotals front sums) ↔
      ∀ front, front <+: entries → ∀ currency, Decimal.Fits (exactSum currency front) := by
  induction entries using List.reverseRecOn with
  | nil =>
      simp only [List.prefix_nil, forall_eq]
      exact iff_of_true ⟨[], rfl, rfl, by simp⟩ fun currency => Decimal.fits_zero
  | append_singleton entries money inductionHypothesis =>
      rw [List.forall_mem_append, List.forall_mem_singleton] at finite
      obtain ⟨finite, amount, denotes⟩ := finite
      have last (property : List Money → Prop) : (∀ front, front <+: entries ++ [money] → property front) ↔
          property (entries ++ [money]) ∧ ∀ front, front <+: entries → property front := by
        simp only [List.prefix_concat_iff, or_imp, forall_and, forall_eq]
      rw [last, last, inductionHypothesis finite]
      refine and_congr_left fun fits => ?_
      obtain ⟨sums, summed, exact⟩ := (inductionHypothesis finite).2 fits entries (List.prefix_refl entries)
      rw [forall_fits_concat (fits entries (List.prefix_refl entries)), ← addTotal_exact_iff exact denotes,
        totals_concat, summed]
      rfl

/-- Amounts are read as finite decimals. -/
theorem denotes_of_plain (plain : Money.Plain money) : ∃ amount, money.amount.Denotes amount := by
  obtain ⟨small, known⟩ := plain
  exact ⟨_, _, _, _, rfl, rfl⟩

/-- The totals of a wallet that was read have the right currencies, and they are exact after each entry if and only if
the sums fit there. -/
theorem totals_exact (accepted : (read source).value = .ok wallet) :
    (∀ sums, wallet.totals = .ok sums →
      sums.map Prod.fst = (wallet.entries.map Money.currency).eraseDups) ∧
    ((∀ front, front <+: wallet.entries → ∀ currency, Decimal.Fits (exactSum currency front)) →
      ∃ sums, wallet.totals = .ok sums ∧ ExactTotals wallet.entries sums) ∧
    ((∀ front, front <+: wallet.entries → ∃ sums, totals ⟨front⟩ = .ok sums ∧ ExactTotals front sums) →
      ∀ front, front <+: wallet.entries → ∀ currency, Decimal.Fits (exactSum currency front)) := by
  have stages := totals_stages_iff fun money member =>
    denotes_of_plain ((read_eq_ok_iff.1 accepted).plain money member)
  refine ⟨fun sums summed => keys_totals summed, ?_, stages.1⟩
  intro fits
  exact stages.2 fits wallet.entries (List.prefix_refl wallet.entries)

/-- Amounts of different lengths, in two currencies and both notations, have exact totals. -/
theorem totals_exact_mixed :
    let dollars : Money := ⟨.finite false 150 (-2), "USD"⟩
    let euros : Money := ⟨.finite false 9999999999999999999999999999 0, "EUR"⟩
    let cents : Money := ⟨.finite false 255 (-3), "USD"⟩
    (read "1.50 USD, €9999999999999999999999999999, $0.255").value = .ok ⟨[dollars, euros, cents]⟩ ∧
      ∃ sums, totals ⟨[dollars, euros, cents]⟩ = .ok sums ∧ ExactTotals [dollars, euros, cents] sums := by
  intro dollars euros cents
  have accepted : (read "1.50 USD, €9999999999999999999999999999, $0.255").value =
      .ok ⟨[dollars, euros, cents]⟩ := by decide +kernel
  have other : ("USD" : Text) ≠ "EUR" := by decide
  have none (currency : Text) : Decimal.Fits (exactSum currency []) := Decimal.fits_zero
  have one : ∀ currency, Decimal.Fits (exactSum currency [dollars]) := by
    refine (forall_fits_concat none dollars).2 ?_
    refine Decimal.fits_of_short 150 (-2) (by decide) (by decide) (by decide) ?_
    norm_num [exactSum, dollars, Decimal.value]
  have two : ∀ currency, Decimal.Fits (exactSum currency [dollars, euros]) := by
    refine (forall_fits_concat one euros).2 ?_
    refine Decimal.fits_of_short 9999999999999999999999999999 0 (by decide) (by decide)
      (by decide) ?_
    norm_num [exactSum, dollars, euros, Decimal.value, other]
  have three : ∀ currency, Decimal.Fits (exactSum currency [dollars, euros, cents]) := by
    refine (forall_fits_concat two cents).2 ?_
    refine Decimal.fits_of_short 1755 (-3) (by decide) (by decide) (by decide) ?_
    norm_num [exactSum, dollars, euros, cents, Decimal.value, other.symm]
  refine ⟨accepted, (totals_exact accepted).2.1 ?_⟩
  intro front inside
  rw [← List.mem_inits] at inside
  simp only [List.inits, List.map_cons, List.map_nil, List.mem_cons, List.not_mem_nil, or_false] at inside
  rcases inside with rfl | rfl | rfl | rfl
  · exact none
  · exact one
  · exact two
  · exact three

/-- An amount with one digit more than decimals keep is not its own total. -/
theorem total_not_exact :
    let amount : Decimal := .finite false 12345678901234567890123456789 0
    let total : Decimal := .finite false 1234567890123456789012345679 1
    (read "12345678901234567890123456789 USD").value = .ok ⟨[⟨amount, "USD"⟩]⟩ ∧
      totals ⟨[⟨amount, "USD"⟩]⟩ = .ok [("USD", total)] ∧
      total.value ≠ exactSum "USD" [⟨amount, "USD"⟩] := by
  intro amount total
  refine ⟨by decide +kernel, by decide +kernel, ?_⟩
  norm_num [exactSum, amount, total, Decimal.value]

end ParserAlgebra.Wallet
