import ParserAlgebra.Proofs.Wallet.Refusal

namespace ParserAlgebra

open ParserAlgebra.Language ParserAlgebra.Parser Text

namespace Money

variable {source : Text} {money : Money}

theorem parse_item (member : Item source money) :
    ((token moneyParser).drop endOfFile).parse source = .success money [] := by
  have readItem : (token moneyParser).parse (source ++ []) = .success money [] :=
    accepts_item (source.length + 1) (by simp) member stops_nil
  rw [List.append_nil] at readItem
  rw [parse_drop, readItem]
  rfl

theorem Item.plain (member : Item source money) : Plain money := by
  obtain ⟨before, inner, after⟩ := member
  exact inner.plain

theorem item_text (plain : Plain money) (positional : Positional money) {blank : Text}
    (run : Run isWhitespace blank) : Item (blank ++ money.text) money := by
  have padded : Item (blank ++ money.text ++ []) money :=
    .padded run (moneyText_text plain positional) run_nil
  rwa [List.append_nil] at padded

/-- Money that the parser gives is read back from its written form, or the mark of its exponent is
taken for a currency. -/
theorem value_read_text (plain : Plain money) :
    (read money.text).value =
      if Positional money then .ok money else .failure (unknownCurrency "E") := by
  split
  · rename_i positional
    exact value_run_eq_ok.2 ⟨[], parse_item (item_text plain positional run_nil)⟩
  · rename_i scientific
    have failed := parse_token_scientific plain scientific run_nil []
    rw [List.nil_append, List.append_nil] at failed
    rw [read, value_run, parse_drop, failed]
    rfl

end Money

namespace Wallet

variable {source blank : Text} {entries good others : List Money} {bad : Money}

/-- This function writes entries with commas and spaces between them. -/
def joined (entries : List Money) : Text :=
  (", " : Text).intercalate (entries.map Money.text)

theorem joined_cons_cons (first second : Money) (others : List Money) :
    joined (first :: second :: others) =
      first.text ++ ("," : Text) ++ ((" " : Text) ++ joined (second :: others)) := by
  simp [joined, List.intercalate, Text.ofString]

theorem plain_of_separated (items : Separated Money.Item source entries) :
    ∀ money ∈ entries, Money.Plain money := by
  induction items with
  | single only => simpa using only.plain
  | cons first _ inductionHypothesis => simpa using ⟨first.plain, inductionHypothesis⟩

theorem WalletText.plain (member : WalletText source entries) :
    ∀ money ∈ entries, Money.Plain money := by
  cases member with
  | empty run => simp
  | items items => exact plain_of_separated items
  | trailing items after => exact plain_of_separated items

/-- Written entries without exponents are items with commas between them. -/
theorem separated_joined (nonempty : entries ≠ []) (plain : ∀ money ∈ entries, Money.Plain money)
    (positional : ∀ money ∈ entries, Money.Positional money) (run : Run isWhitespace blank) :
    Separated Money.Item (blank ++ joined entries) entries := by
  induction entries generalizing blank with
  | nil => exact absurd rfl nonempty
  | cons first entries inductionHypothesis =>
      simp only [List.forall_mem_cons] at plain positional
      have item := Money.item_text plain.1 positional.1 run
      have space : Run isWhitespace (" " : Text) := by decide
      cases entries with
      | nil => simpa [joined] using Separated.single item
      | cons second entries =>
          rw [joined_cons_cons, ← List.append_assoc, ← List.append_assoc blank]
          exact .cons item (inductionHypothesis (by simp) plain.2 positional.2 space)

/-- The written entries in front of a bad one are items that end with commas. -/
theorem joined_ended (plain : ∀ money ∈ good, Money.Plain money)
    (positional : ∀ money ∈ good, Money.Positional money) (run : Run isWhitespace blank) :
    ∃ front left rest, blank ++ joined (good ++ bad :: others) = front ++ (left ++ (bad.text ++ rest)) ∧
      Sequence (Ended Money.Item) front good ∧ Run isWhitespace left := by
  induction good generalizing blank with
  | nil =>
      cases others with
      | nil => exact ⟨[], blank, [], by simp [joined], .nil, run⟩
      | cons second others =>
          exact ⟨[], blank, ("," : Text) ++ ((" " : Text) ++ joined (second :: others)),
            by simp [joined_cons_cons], .nil, run⟩
  | cons first good inductionHypothesis =>
      simp only [List.forall_mem_cons] at plain positional
      have item := Money.item_text plain.1 positional.1 run
      have space : Run isWhitespace (" " : Text) := by decide
      obtain ⟨front, left, rest, shape, ended, leftRun⟩ :=
        inductionHypothesis plain.2 positional.2 space
      obtain ⟨second, tail, next⟩ : ∃ second tail, good ++ bad :: others = second :: tail := by
        cases good with
        | nil => exact ⟨_, _, rfl⟩
        | cons second good => exact ⟨_, _, rfl⟩
      refine ⟨blank ++ first.text ++ ("," : Text) ++ front, left, rest, ?_, .cons (.ended item) ended, leftRun⟩
      rw [next] at shape
      rw [List.cons_append, next, joined_cons_cons, shape]
      simp

/-- Entries that the parser gives are read back from their written form, or the mark of the first
exponent is taken for a currency. -/
theorem value_read_joined (plain : ∀ money ∈ entries, Money.Plain money) :
    (read (joined entries)).value =
      if ∀ money ∈ entries, Money.Positional money then .ok ⟨entries⟩
      else .failure (Money.unknownCurrency "E") := by
  have run : (read (joined entries)).value = (run (joined entries) walletParser).value := rfl
  split
  · rename_i positional
    rw [run, value_run_eq_ok]
    refine ⟨[], parse_walletParser ?_⟩
    by_cases nonempty : entries = []
    · subst nonempty
      exact .empty run_nil
    · exact .items (separated_joined nonempty plain positional run_nil)
  · rename_i scientific
    have found : (entries.find? fun money => !decide (Money.Positional money)).isSome := by
      rw [List.find?_isSome]
      simpa using scientific
    obtain ⟨bad, first⟩ := Option.isSome_iff_exists.1 found
    obtain ⟨exponent, good, others, rfl, positional⟩ := List.find?_eq_some_iff_append.1 first
    simp only [Bool.not_eq_true', decide_eq_false_iff_not, Bool.not_not, decide_eq_true_eq] at exponent positional
    obtain ⟨front, left, rest, shape, ended, leftRun⟩ :=
      joined_ended (fun money member => plain money (by simp [member])) positional run_nil
    have failed := Money.parse_token_scientific (plain bad (by simp)) exponent leftRun rest
    have more : (left ++ (bad.text ++ rest)).dropWhile isWhitespace ≠ [] := by
      intro nothing
      rw [← parse_token_dropWhile, nothing] at failed
      cases failed
    rw [List.nil_append] at shape
    rw [run, value_run, shape, parse_walletParser_refused ended more failed]
    rfl

/-- Money and wallets that were read are read again as written, exactly if no amount is written with an exponent. -/
theorem read_written :
    (∀ (source : Text) (money : Money), (Money.read source).value = .ok money →
      (Money.read money.text).value =
        if Money.Positional money then .ok money else .failure (Money.unknownCurrency "E")) ∧
    ∀ (source : Text) (wallet : Wallet), (read source).value = .ok wallet →
      (read (joined wallet.entries)).value =
        if ∀ money ∈ wallet.entries, Money.Positional money then .ok wallet
        else .failure (Money.unknownCurrency "E") := by
  constructor
  · intro source money accepted
    exact Money.value_read_text (Money.item_of_read accepted).plain
  · intro source wallet accepted
    have run : (read source).value = (run source walletParser).value := rfl
    rw [run, value_run_eq_ok] at accepted
    obtain ⟨rest, parsed⟩ := accepted
    exact value_read_joined (wallet_of_parse parsed).plain

/-- An amount whose leading digit is the sixth place is read again, and one place further a whole wallet is
refused. -/
theorem read_written_tiny :
    let money : Money := ⟨.finite false 70 (-7), "USD"⟩
    let wallet : Wallet := ⟨[⟨.finite false 7 0, "USD"⟩, ⟨.finite false 50 (-8), "CHF"⟩]⟩
    (Money.read "0.0000070 USD").value = .ok money ∧ (Money.read money.text).value = .ok money ∧
      (read " $007 ,\n0.00000050CHF,").value = .ok wallet ∧
      (read (joined wallet.entries)).value = .failure (Money.unknownCurrency "E") := by
  intro money wallet
  have readMoney : (Money.read "0.0000070 USD").value = .ok money := by decide +kernel
  have readWallet : (read " $007 ,\n0.00000050CHF,").value = .ok wallet := by decide +kernel
  have writtenMoney := read_written.1 _ _ readMoney
  have writtenWallet := read_written.2 _ _ readWallet
  rw [if_pos (by decide)] at writtenMoney
  rw [if_neg (by decide)] at writtenWallet
  exact ⟨readMoney, writtenMoney, readWallet, writtenWallet⟩

/-- One unit of the seventh place is read, alone and in a wallet, but not in its written form. -/
theorem exponent_not_read_back :
    let money : Money := ⟨.finite false 1 (-7), "USD"⟩
    (Money.read "0.0000001 USD").value = .ok money ∧ money.text = "1E-7 USD" ∧
      (Money.read money.text).value ≠ .ok money ∧
      (read "0.0000001 USD, $3").value = .ok ⟨[money, ⟨.finite false 3 0, "USD"⟩]⟩ ∧
      (read (joined [money, ⟨.finite false 3 0, "USD"⟩])).value ≠
        .ok ⟨[money, ⟨.finite false 3 0, "USD"⟩]⟩ := by
  decide +kernel

end Wallet

end ParserAlgebra
