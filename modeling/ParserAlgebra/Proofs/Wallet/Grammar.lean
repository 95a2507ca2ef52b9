import ParserAlgebra.Grammar.Wallet
import ParserAlgebra.Proofs.Parser.Numeral
import ParserAlgebra.Proofs.Parser.Token

namespace ParserAlgebra

open ParserAlgebra.Language ParserAlgebra.Parser Text

namespace Money

/-- An amount is a numeral with an optional fraction, all of whose digits make the coefficient. -/
inductive AmountText : Text → Decimal → Prop where
  | whole {digits : Text} (numeral : Numeral digits) :
      AmountText digits (.finite false (positionalValue digits) 0)
  | fraction {whole places : Text} (left : Numeral whole) (right : Numeral places) :
      AmountText (whole ++ ("." : Text) ++ places)
        (.finite false (positionalValue (whole ++ places)) (-(places.length : Int)))

/-- Money is an amount behind a symbol or in front of a code, with spaces between the two. -/
inductive MoneyText : Text → Money → Prop where
  | symbol {sign blank text code : Text} {amount : Decimal} (known : (sign, code) ∈ currencySymbols)
      (between : Run (" " : Text).contains blank) (here : AmountText text amount) :
      MoneyText (sign ++ blank ++ text) ⟨amount, code⟩
  | code {text blank code : Text} {amount : Decimal} (here : AmountText text amount)
      (between : Run (" " : Text).contains blank) (known : code ∈ currencyCodes) :
      MoneyText (text ++ blank ++ code) ⟨amount, code⟩

/-- An item is money with whitespace around it. -/
abbrev Item : Text → Money → Prop :=
  Padded ("\t\n " : Text).contains MoneyText

theorem makeAmount_whole {digits : Text} (numeral : Numeral digits) :
    makeAmount digits none = .finite false (positionalValue digits) 0 := by
  rw [makeAmount, numeralValue_eq_positionalValue numeral.run]

theorem makeAmount_fraction {whole places : Text} (left : Numeral whole) (right : Numeral places) :
    makeAmount whole (some places) = .finite false (positionalValue (whole ++ places)) (-(places.length : Int)) := by
  rw [makeAmount, numeralValue_eq_positionalValue (run_append.2 ⟨left.run, right.run⟩)]

theorem reads_amountParser : Reads amountParser AmountText := by
  have places : Reads (((succeed fun places => places).drop (string ".")).keep digits)
      fun text value => text = ("." : Text) ++ value ∧ Numeral value := by
    intro source value rest parsed
    simp only [parse_keep, parse_drop, parse_succeed, Outcome.andThen_success, Outcome.andThen_assoc,
      Outcome.andThen_eq_success] at parsed
    obtain ⟨_, _, readPoint, digits, _, readDigits, done⟩ := parsed
    cases done
    obtain ⟨_, rfl, rfl, -⟩ := Reads.string _ readPoint
    obtain ⟨_, rfl, rfl, numeral⟩ := reads_digits readDigits
    exact ⟨_, by simp, rfl, numeral⟩
  intro source amount rest parsed
  simp only [amountParser, parse_keep, parse_succeed, Outcome.andThen_success, Outcome.andThen_assoc,
    Outcome.andThen_eq_success] at parsed
  obtain ⟨_, _, readWhole, fraction?, _, readFraction, done⟩ := parsed
  cases done
  obtain ⟨whole, rfl, rfl, left⟩ := reads_digits readWhole
  obtain ⟨text, rfl, optional⟩ := places.optional readFraction
  cases optional with
  | absent =>
      rw [makeAmount_whole left]
      exact ⟨whole, rfl, .whole left⟩
  | @present text places here =>
      obtain ⟨rfl, right⟩ := here
      rw [makeAmount_fraction left right]
      exact ⟨whole ++ ("." : Text) ++ places, by simp, .fraction left right⟩

theorem reads_symbolParser : Reads symbolParser fun text code => (text, code) ∈ currencySymbols := by
  refine Reads.oneOf fun alternative member => ?_
  obtain ⟨entry, known, rfl⟩ := List.mem_map.1 member
  refine ((Reads.string entry.1).map _).mono ?_
  intro text code reading
  obtain ⟨_, ⟨rfl, -⟩, rfl⟩ := reading
  exact known

theorem reads_codeParser : Reads codeParser fun text code => text = code ∧ code ∈ currencyCodes := by
  intro source code rest parsed
  rw [codeParser, parse_andThen, Outcome.andThen_eq_success] at parsed
  obtain ⟨_, middle, readLetters, checked⟩ := parsed
  obtain ⟨letters, rfl, rfl, -⟩ := Reads.takeIfAndWhile _ readLetters
  rw [checkCurrency] at checked
  split at checked
  · rename_i known
    cases checked
    exact ⟨_, rfl, rfl, known⟩
  · cases checked

theorem reads_symbolMoney : Reads symbolMoney MoneyText := by
  intro source money rest parsed
  simp only [symbolMoney, parse_keep, parse_drop, parse_succeed, Outcome.andThen_success,
    Outcome.andThen_assoc, Outcome.andThen_eq_success] at parsed
  obtain ⟨code, _, readSymbol, _, _, readBlank, amount, _, readAmount, done⟩ := parsed
  cases done
  obtain ⟨sign, rfl, known⟩ := reads_symbolParser readSymbol
  obtain ⟨blank, rfl, between⟩ := reads_spaces readBlank
  obtain ⟨text, rfl, here⟩ := reads_amountParser readAmount
  exact ⟨sign ++ blank ++ text, by simp, .symbol known between here⟩

theorem reads_codeMoney : Reads codeMoney MoneyText := by
  intro source money rest parsed
  simp only [codeMoney, parse_keep, parse_drop, parse_succeed, Outcome.andThen_success,
    Outcome.andThen_assoc, Outcome.andThen_eq_success] at parsed
  obtain ⟨amount, _, readAmount, _, _, readBlank, code, _, readCode, done⟩ := parsed
  cases done
  obtain ⟨text, rfl, here⟩ := reads_amountParser readAmount
  obtain ⟨blank, rfl, between⟩ := reads_spaces readBlank
  obtain ⟨_, rfl, rfl, known⟩ := reads_codeParser readCode
  exact ⟨_, by simp, .code here between known⟩

theorem reads_moneyParser : Reads moneyParser MoneyText := by
  refine Reads.oneOf fun alternative member => ?_
  simp only [List.mem_cons, List.not_mem_nil, or_false] at member
  rcases member with rfl | rfl
  · exact reads_symbolMoney
  · exact reads_codeMoney

end Money

namespace Wallet

/-- A wallet is empty but for whitespace, or a list of items with commas between them and perhaps behind the last
one. -/
inductive WalletText : Text → List Money → Prop where
  | empty {blank : Text} (run : Run ("\t\n " : Text).contains blank) : WalletText blank []
  | items {text : Text} {entries : List Money} (items : Separated Money.Item text entries) :
      WalletText text entries
  | trailing {text blank : Text} {entries : List Money} (items : Separated Money.Item text entries)
      (after : Run ("\t\n " : Text).contains blank) : WalletText (text ++ ("," : Text) ++ blank) entries

end Wallet

end ParserAlgebra
