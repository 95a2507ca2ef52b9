import ParserAlgebra.Proofs.Wallet.Grammar

namespace ParserAlgebra

open ParserAlgebra.Language ParserAlgebra.Parser Text

namespace Money

variable {text rest source code : Text} {amount : Decimal} {money : Money}

/-- This test accepts the code points that go on with money: with its amount or with its code. -/
def isMoneyPart (point : CodePoint) : Bool :=
  isNumeralPart point || isUppercase point

theorem stops_numeral (stops : Stops isMoneyPart rest) : Stops isNumeralPart rest :=
  stops.of_imp fun point part => by simp [isMoneyPart, part]

theorem stops_uppercase (stops : Stops isMoneyPart rest) : Stops isUppercase rest :=
  stops.of_imp fun point part => by simp [isMoneyPart, part]

/-- An amount begins with a digit. -/
theorem AmountText.apart {other : CodePoint → Bool} (here : AmountText text amount)
    (disjoint : ∀ point ∈ CharacterClass.decimalDigits, other point = false) : Apart other text := by
  cases here with
  | whole numeral => exact numeral.apart disjoint
  | fraction left right => exact ((left.apart disjoint).append _).append _

theorem parse_amountParser_append (here : AmountText text amount) (stops : Stops isNumeralPart rest) :
    amountParser.parse (text ++ rest) = .success amount rest := by
  cases here with
  | whole numeral =>
      obtain ⟨reason, noPoint⟩ : Refuses (string ".") rest := refuses_string_stops (by decide) stops
      have readWhole := parse_digits_append numeral stops.digit
      simp [amountParser, readWhole, noPoint, makeAmount_whole numeral]
  | @fraction whole places left right =>
      have point : Stops isDigit (("." : Text) ++ (places ++ rest)) :=
        Stops.append (by decide) (by decide)
      have readWhole := parse_digits_append left point
      have readPoint := parse_string_append "." (places ++ rest)
      have readPlaces := parse_digits_append right stops.digit
      simp [amountParser, readWhole, readPoint, readPlaces, makeAmount_fraction left right]

theorem parse_symbolParser_append {sign : Text} (known : (sign, code) ∈ currencySymbols) (rest : Text) :
    symbolParser.parse (sign ++ rest) = .success code rest := by
  simp only [currencySymbols, List.mem_cons, Prod.mk.injEq, List.not_mem_nil, or_false] at known
  rcases known with ⟨rfl, rfl⟩ | ⟨rfl, rfl⟩ | ⟨rfl, rfl⟩ | ⟨rfl, rfl⟩
  all_goals rfl

/-- No symbol begins with a digit. -/
theorem refuses_symbolMoney (apart : Apart ("$€£¥" : Text).contains text) :
    Refuses symbolMoney (text ++ rest) := by
  have refuses : Refuses symbolParser (text ++ rest) := by
    refine Refuses.oneOf fun alternative member => ?_
    have stops := apart.stops_append rest
    simp only [currencySymbols, List.map_cons, List.map_nil, List.mem_cons, List.not_mem_nil,
      or_false] at member
    rcases member with rfl | rfl | rfl | rfl
    all_goals exact (refuses_string_stops (by decide) stops).transform _
  obtain ⟨reason, failed⟩ := refuses
  exact ⟨reason, by simp [symbolMoney, failed]⟩

theorem run_code (known : code ∈ currencyCodes) : Run isUppercase code ∧ code ≠ [] := by
  revert code
  decide

/-- A code is read as the longest run of upper case letters. -/
theorem parse_codeParser_append (known : code ∈ currencyCodes) (stops : Stops isUppercase rest) :
    codeParser.parse (code ++ rest) = .success code rest := by
  obtain ⟨run, nonempty⟩ := run_code known
  rw [codeParser, parse_andThen, parse_takeIfAndWhile_run run nonempty stops, Outcome.andThen_success,
    checkCurrency, if_pos known, parse_succeed]

/-- A code ends the digits of the amount in front of it. -/
theorem stops_code {blank : Text} (between : Run isSpace blank) (known : code ∈ currencyCodes)
    (rest : Text) : Stops isNumeralPart (blank ++ (code ++ rest)) := by
  obtain ⟨run, nonempty⟩ := run_code known
  have apart : Apart isNumeralPart code := run.apart nonempty (disjoint_of_members (by decide))
  exact between.stops_append space_disjoint (apart.stops_append rest)

/-- Money is accepted wherever it does not go on. -/
theorem parse_moneyParser_append (member : MoneyText text money) (stops : Stops isMoneyPart rest) :
    moneyParser.parse (text ++ rest) = .success money rest := by
  cases member with
  | @symbol sign blank text code amount known between here =>
      have digit : Apart isSpace text := here.apart (by decide)
      have readSymbol := parse_symbolParser_append known (blank ++ (text ++ rest))
      have readBlank := parse_spaces_run between (digit.stops_append rest)
      have readAmount := parse_amountParser_append here (stops_numeral stops)
      apply parse_oneOf_first
      simp only [symbolMoney, parse_keep, parse_drop, parse_succeed, Outcome.andThen_success,
        List.append_assoc, readSymbol, readBlank, readAmount]
  | @code text blank code amount here between known =>
      have digit : Apart ("$€£¥" : Text).contains text := here.apart (by decide)
      have letter : Apart isSpace code := by
        obtain ⟨run, nonempty⟩ := run_code known
        exact run.apart nonempty (disjoint_of_members (by decide))
      have readAmount := parse_amountParser_append here (stops_code between known rest)
      have readBlank := parse_spaces_run between (letter.stops_append rest)
      have readCode := parse_codeParser_append known (stops_uppercase stops)
      simp only [List.append_assoc]
      rw [moneyParser, (refuses_symbolMoney digit).parse_oneOf]
      simp only [parse_oneOf_singleton, codeMoney, parse_keep, parse_drop, parse_succeed,
        Outcome.andThen_success, readAmount, readBlank, readCode]

theorem MoneyText.apart (member : MoneyText text money) : Apart isWhitespace text := by
  cases member with
  | symbol known between here =>
      have sign : ∀ entry ∈ currencySymbols, Apart isWhitespace entry.1 := by decide
      exact ((sign _ known).append _).append _
  | code here between known => exact ((here.apart (by decide)).append _).append _

/-- Whitespace may stand behind money. -/
theorem stops_blank {blank : Text} (run : Run isWhitespace blank) (stops : Stops isMoneyPart rest) :
    Stops isMoneyPart (blank ++ rest) :=
  run.stops_append (disjoint_of_members (by decide)) stops

theorem accepts_item (bound : Nat) :
    AcceptsTrimmed bound (token moneyParser) Item (Stops isMoneyPart) := by
  refine accepts_token ?_ MoneyText.apart stops_blank
  intro text money rest _ member stops
  exact parse_moneyParser_append member stops

theorem item_of_read (accepted : (read source).value = .ok money) : Item source money := by
  obtain ⟨rest, parsed⟩ := value_run_eq_ok.1 accepted
  rw [parse_drop, Outcome.andThen_eq_success] at parsed
  obtain ⟨_, _, readItem, done⟩ := parsed
  rw [Outcome.andThen_eq_success] at done
  obtain ⟨_, _, readEnd, done⟩ := done
  cases done
  obtain ⟨rfl, rfl⟩ := parse_endOfFile_eq_success.1 readEnd
  obtain ⟨text, rfl, member⟩ := reads_token reads_moneyParser readItem
  rwa [List.append_nil]

theorem refuses_item_nil {blank : Text} (run : Run isWhitespace blank) :
    Refuses (token moneyParser) blank := by
  apply refuses_token
  have nothing : blank.dropWhile isWhitespace = [] := by
    simpa using run.dropWhile_append stops_nil
  rw [nothing]
  exact ⟨_, rfl⟩

end Money

namespace Wallet

variable {source rest : Text} {wallet : Wallet} {entries : List Money}

theorem run_all (text : Text) : Run (fun _ => true) text :=
  fun _ _ => rfl

/-- Leftover input is never accepted, whether it holds an entry or not. -/
theorem checkLeftover_ne_ok {value : Unit} (leftover : source ≠ []) :
    (checkLeftover source).value ≠ .ok value := by
  have some : source.isEmpty = false := by simpa using leftover
  simp only [checkLeftover, some, Bool.false_eq_true, if_false, Logged.value_bind]
  split <;> simp

theorem parse_endOfEntries_eq_success {value : Unit} :
    endOfEntries.parse source = .success value rest ↔ source = [] ∧ rest = [] := by
  have all := parse_takeWhile_run (run_all source) stops_nil
  rw [List.append_nil] at all
  rw [endOfEntries, parse_andThen, all, Outcome.andThen_success]
  cases source with
  | nil =>
      constructor
      · intro parsed
        cases parsed
        exact ⟨rfl, rfl⟩
      · rintro ⟨-, rfl⟩
        rfl
  | cons point points =>
      constructor
      · intro parsed
        obtain ⟨_, -, -, passed⟩ := Reads.fromVerdict _ parsed
        exact absurd passed (checkLeftover_ne_ok (by simp))
      · rintro ⟨nothing, -⟩
        cases nothing

/-- The whitespace behind the last item belongs to the item. -/
theorem separated_blank {text blank : Text} (items : Separated Money.Item text entries)
    (run : Run isWhitespace blank) : Separated Money.Item (text ++ blank) entries := by
  induction items with
  | single only =>
      obtain ⟨before, inner, after⟩ := only
      rw [List.append_assoc]
      exact .single (.padded before inner (run_append.2 ⟨after, run⟩))
  | cons first _ inductionHypothesis =>
      rw [List.append_assoc]
      exact .cons first inductionHypothesis

/-- A wallet is a repetition of items with commas, and whitespace behind it. -/
theorem walletText_iff_repeated :
    WalletText source entries ↔ ∃ text blank, source = text ++ blank ∧
      Repeated Money.Item (Literal ",") text entries ∧ Run isWhitespace blank := by
  constructor
  · intro member
    cases member with
    | empty run => exact ⟨[], source, rfl, .nil, run⟩
    | items items => exact ⟨source, [], by simp, items.repeated, run_nil⟩
    | trailing items after => exact ⟨_, _, rfl, items.repeated_trailing, after⟩
  · rintro ⟨text, blank, rfl, repeated, run⟩
    cases repeated.listed with
    | empty => exact .empty run
    | items items => exact .items (separated_blank items run)
    | trailing items => exact .trailing items run

theorem wallet_of_parse (parsed : walletParser.parse source = .success wallet rest) :
    WalletText source wallet.entries := by
  simp only [walletParser, parse_keep, parse_drop, parse_succeed, Outcome.andThen_success,
    Outcome.andThen_assoc, Outcome.andThen_eq_success] at parsed
  obtain ⟨_, _, readEntries, _, _, readBlank, _, _, readEnd, done⟩ := parsed
  cases done
  obtain ⟨text, rfl, repeated⟩ :=
    (reads_token Money.reads_moneyParser).many (Reads.string ",") readEntries
  obtain ⟨blank, rfl, run⟩ := reads_whitespace readBlank
  obtain ⟨rfl, -⟩ := parse_endOfEntries_eq_success.1 readEnd
  exact walletText_iff_repeated.2 ⟨text, blank, by simp, repeated, run⟩

/-- The items of a wallet end where the input ends. -/
theorem closes_wallet (bound : Nat) :
    Closes bound (token Money.moneyParser) (Stops Money.isMoneyPart) [] where
  stops := stops_nil
  noComma := ⟨_, rfl⟩
  follows := fun run => Money.stops_blank run stops_nil
  noItem := by
    intro blank run _
    rw [List.append_nil]
    exact Money.refuses_item_nil run

theorem parse_walletParser (member : WalletText source entries) :
    walletParser.parse source = .success ⟨entries⟩ [] := by
  obtain ⟨text, blank, rfl, repeated, run⟩ := walletText_iff_repeated.1 member
  obtain ⟨left, leftRun, readEntries⟩ := parse_many_commas (Money.accepts_item _)
    (fun rest => Stops.append (by decide) (by decide)) (closes_wallet _) repeated run (Nat.lt_succ_self _)
  have readBlank := parse_whitespace_run leftRun stops_nil
  have readEnd : endOfEntries.parse [] = .success () [] := rfl
  rw [List.append_nil] at readEntries
  simp only [walletParser, parse_keep, parse_drop, parse_succeed, Outcome.andThen_success, readEntries,
    readBlank, readEnd]

/-- A text is read exactly if it is a wallet, and the entries are what its items mean, in order. -/
theorem read_eq_ok_iff : (read source).value = .ok ⟨entries⟩ ↔ WalletText source entries := by
  have run : (read source).value = (run source walletParser).value := rfl
  rw [run, value_run_eq_ok]
  constructor
  · rintro ⟨rest, parsed⟩
    exact wallet_of_parse parsed
  · intro member
    exact ⟨[], parse_walletParser member⟩

end Wallet

end ParserAlgebra
