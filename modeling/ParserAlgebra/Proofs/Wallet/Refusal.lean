import ParserAlgebra.Proofs.Parser.Fault
import ParserAlgebra.Proofs.Wallet.Writing

namespace ParserAlgebra

open ParserAlgebra.Language ParserAlgebra.Parser Text

namespace Money

variable {source : Text} {reason : Failure}

theorem steady_moneyParser : Steady moneyParser := by
  have fraction : Steady (((succeed fun (places : Text) => places).drop (string ".")).keep digits) :=
    ((Steady.succeed _).map2 _ (.string ".")).map2 _ .digits
  have amount : Steady amountParser := ((Steady.succeed _).map2 _ .digits).map2 _ fraction.optional
  have code : Steady codeParser := by
    refine (Steady.takeIfAndWhile _).andThen fun letters => ?_
    unfold checkCurrency
    split
    · exact .succeed letters
    · exact .fromResult _
  have symbol : Steady symbolParser := by
    refine .oneOf fun alternative member => ?_
    obtain ⟨entry, -, rfl⟩ := List.mem_map.1 member
    exact ((Steady.string entry.1).transform _).rename _
  refine .oneOf fun alternative member => ?_
  simp only [List.mem_cons, List.not_mem_nil, or_false] at member
  rcases member with rfl | rfl
  · exact (((Steady.succeed _).map2 _ symbol).map2 _ .spaces).map2 _ amount
  · exact (((Steady.succeed _).map2 _ amount).map2 _ .spaces).map2 _ code

/-- Money is refused with one of these failures, and the input that they show is an end of the source. -/
inductive Refusal (source : Text) : Failure → Prop where
  | ended : Refusal source .endOfInput
  | unexpected {stand : Text} (suffix : stand <:+ source) : Refusal source (.unexpected stand)
  | unknown (code : Text) : Refusal source (unknownCurrency code)

theorem Refusal.mono {larger : Text} (refusal : Refusal source reason) (suffix : source <:+ larger) :
    Refusal larger reason := by
  cases refusal with
  | ended => exact .ended
  | unexpected inner => exact .unexpected (inner.trans suffix)
  | unknown code => exact .unknown code

theorem Refusal.described (refusal : Refusal source reason) : Described reason := by
  cases refusal <;> exact ⟨_, rfl⟩

theorem Refusal.remaining {rest : Text} (refusal : Refusal source reason)
    (placed : reason.remaining = some rest) : rest <:+ source := by
  cases refusal with
  | ended =>
      cases placed
      exact List.nil_suffix
  | unexpected suffix =>
      cases placed
      exact suffix
  | unknown code => cases placed

theorem refusal_of_run {test : CodePoint → Bool}
    (failed : (takeIfAndWhile test).parse source = .failure reason) : Refusal source reason := by
  rw [parse_takeIfAndWhile] at failed
  split at failed
  · cases failed
    exact .ended
  · split at failed <;> cases failed
    exact .unexpected (List.suffix_refl _)

theorem refusal_of_code (failed : codeParser.parse source = .failure reason) : Refusal source reason := by
  rw [codeParser, parse_andThen, Outcome.andThen_eq_failure] at failed
  rcases failed with failed | ⟨letters, middle, -, failed⟩
  · exact refusal_of_run failed
  · unfold checkCurrency at failed
    split at failed <;> cases failed
    exact .unknown letters

/-- An amount is refused for its first code point only, since the fraction may be left out. -/
theorem refusal_of_amount (failed : amountParser.parse source = .failure reason) : Refusal source reason := by
  simp only [amountParser, parse_keep, parse_succeed, Outcome.andThen_success, Outcome.andThen_assoc,
    Outcome.andThen_eq_failure] at failed
  rcases failed with failed | ⟨_, _, -, fraction | ⟨_, _, -, done⟩⟩
  · exact refusal_of_run failed
  · rw [parse_optional, Outcome.orElse_eq_failure] at fraction
    obtain ⟨_, _, done⟩ := fraction
    cases done
  · cases done

/-- Money in front of which no symbol stands is refused for its amount or its code. -/
theorem refusal_of_money (failed : moneyParser.parse source = .failure reason) : Refusal source reason := by
  simp only [moneyParser, parse_oneOf_cons_cons, parse_oneOf_singleton, Outcome.orElse_eq_failure] at failed
  obtain ⟨_, -, failed⟩ := failed
  simp only [codeMoney, parse_keep, parse_drop, parse_succeed, parse_spaces, Outcome.andThen_success,
    Outcome.andThen_assoc, Outcome.andThen_eq_failure] at failed
  rcases failed with failed | ⟨_, middle, readAmount, failed | ⟨_, _, -, done⟩⟩
  · exact refusal_of_amount failed
  · have behind := (List.dropWhile_suffix isSpace).trans (reads_amountParser.suffix readAmount)
    exact (refusal_of_code failed).mono behind
  · cases done

theorem refusal_of_item (failed : (token moneyParser).parse source = .failure reason) :
    Refusal source reason :=
  (refusal_of_money (token_eq_failure.1 failed)).mono (List.dropWhile_suffix isWhitespace)

theorem steady_item : Steady (token moneyParser) :=
  fun _ _ raised => steady_moneyParser (token_eq_fault.1 raised)

end Money

namespace Wallet

variable {source front bad rest : Text} {good : List Money} {money : Money} {reason : Failure}

/-- Leftover input that holds an entry misses the comma in front of it, and other leftover input has its own
failure. -/
theorem parse_endOfEntries_leftover (leftover : source ≠ []) :
    endOfEntries.parse source =
      match (run source (token Money.moneyParser)).value with
      | .ok _ => .failure (.expected "',' or end of file" source)
      | .failure reason => .failure reason
      | .fault fault => .fault fault := by
  have all := parse_takeWhile_run (run_all source) stops_nil
  have some : source.isEmpty = false := by simpa using leftover
  rw [List.append_nil] at all
  simp only [endOfEntries, parse_andThen, all, Outcome.andThen_success, parse_fromVerdict, checkLeftover,
    some, Bool.false_eq_true, if_false, Logged.value_bind]
  cases (run source (token Money.moneyParser)).value <;> rfl

theorem parse_endOfEntries_refused (leftover : source ≠ [])
    (failed : (token Money.moneyParser).parse source = .failure reason) :
    endOfEntries.parse source = .failure reason := by
  obtain ⟨description, described⟩ := (Money.refusal_of_item failed).described
  rw [parse_endOfEntries_leftover leftover, value_run, failed]
  simp only [described]

theorem parse_endOfEntries_entry (leftover : source ≠ [])
    (read : (token Money.moneyParser).parse source = .success money rest) :
    endOfEntries.parse source = .failure (.expected "',' or end of file" source) := by
  rw [parse_endOfEntries_leftover leftover, value_run, read]

/-- Behind items that end with commas, the other entries are read, and the end is looked for behind
them. -/
theorem parse_walletParser_ended {values : List Money} (ended : Sequence (Ended Money.Item) front good)
    (read : (many (token Money.moneyParser) (string ",")).parse bad = .success values rest) :
    walletParser.parse (front ++ bad) =
      (endOfEntries.parse (rest.dropWhile isWhitespace)).andThen fun _ final =>
        .success ⟨good ++ values⟩ final := by
  have readEntries := parse_many_ended (Money.accepts_item _)
    (fun rest => Stops.append (by decide) (by decide)) ended (Nat.lt_succ_self (front ++ bad).length)
  rw [read, Outcome.andThen_success] at readEntries
  simp only [walletParser, parse_keep, parse_drop, parse_succeed, Outcome.andThen_success, readEntries,
    parse_whitespace]

/-- Behind items that end with commas, a text that is no item gives its own failure. -/
theorem parse_walletParser_refused (ended : Sequence (Ended Money.Item) front good)
    (more : bad.dropWhile isWhitespace ≠ [])
    (failed : (token Money.moneyParser).parse bad = .failure reason) :
    walletParser.parse (front ++ bad) = .failure reason := by
  have refuses : Refuses (token Money.moneyParser) bad := ⟨reason, failed⟩
  rw [parse_walletParser_ended ended (refuses.parse_many _)]
  rw [← parse_token_dropWhile] at failed
  rw [parse_endOfEntries_refused more failed, Outcome.andThen_failure]

/-- An entry behind which neither a comma nor the end follows leaves the rest to be checked. -/
theorem parse_walletParser_leftover (ended : Sequence (Ended Money.Item) front good)
    (read : (token Money.moneyParser).parse bad = .success money rest) (noComma : ¬ ("," : Text) <+: rest) :
    walletParser.parse (front ++ bad) =
      (endOfEntries.parse rest).andThen fun _ final => .success ⟨good ++ [money]⟩ final := by
  rw [parse_walletParser_ended ended (parse_many_last read (refuses_string noComma))]
  rw [parse_token, Outcome.andThen_eq_success] at read
  obtain ⟨_, behind, -, trimmed⟩ := read
  cases trimmed
  rw [(stops_dropWhile isWhitespace behind).dropWhile_eq]

/-- A wallet that is refused with a failure that has a description is read as this failure. -/
theorem read_eq_failure (described : Described reason) (failed : walletParser.parse source = .failure reason) :
    (read source).value = .failure reason := by
  have run : (read source).value = (run source walletParser).value := rfl
  obtain ⟨description, described⟩ := described
  rw [run, value_run, failed]
  simp only [described]

/-- Texts that are items make up a sequence of items, each with a comma behind it. -/
theorem sequence_of_items {items : List Text} (each : ∀ item ∈ items, ∃ money, Money.Item item money) :
    ∃ entries, Sequence (Ended Money.Item) (Text.concat (items.map fun item => item ++ ("," : Text))) entries := by
  induction items with
  | nil => exact ⟨[], .nil⟩
  | cons item items inductionHypothesis =>
      simp only [List.forall_mem_cons] at each
      obtain ⟨money, here⟩ := each.1
      obtain ⟨entries, there⟩ := inductionHypothesis each.2
      exact ⟨money :: entries, .cons (.ended here) there⟩

/-- Behind items that end with commas, the first bad entry, or the rest that it leaves, tells why the wallet is
refused. -/
theorem first_bad_entry {items : List Text} {bad : Text}
    (each : ∀ item ∈ items, ∃ money, Money.Item item money) (more : ¬ Run isWhitespace bad) :
    let source := Text.concat (items.map fun item => item ++ ("," : Text)) ++ bad
    (∀ reason, (token Money.moneyParser).parse bad = .failure reason →
      (read source).value = .failure reason ∧ ∀ rest, reason.remaining = some rest → rest <:+ source) ∧
    (∀ money rest, (token Money.moneyParser).parse bad = .success money rest → rest ≠ [] →
      ¬ ("," : Text) <+: rest →
      (∀ reason, (token Money.moneyParser).parse rest = .failure reason →
        (read source).value = .failure reason) ∧
      ∀ other final, (token Money.moneyParser).parse rest = .success other final →
        (read source).value = .failure (.expected "',' or end of file" rest)) ∧
    Steady (token Money.moneyParser) := by
  intro source
  obtain ⟨good, ended⟩ := sequence_of_items each
  refine ⟨?_, ?_, Money.steady_item⟩
  · intro reason failed
    have refusal := Money.refusal_of_item failed
    have nonblank : bad.dropWhile isWhitespace ≠ [] := fun nothing => more (run_of_dropWhile nothing)
    refine ⟨read_eq_failure refusal.described (parse_walletParser_refused ended nonblank failed), ?_⟩
    intro rest placed
    exact (refusal.remaining placed).trans (List.suffix_append _ bad)
  · intro money rest readEntry leftover noComma
    have checked := parse_walletParser_leftover ended readEntry noComma
    constructor
    · intro reason failed
      rw [parse_endOfEntries_refused leftover failed, Outcome.andThen_failure] at checked
      exact read_eq_failure (Money.refusal_of_item failed).described checked
    · intro other final readNext
      rw [parse_endOfEntries_entry leftover readNext, Outcome.andThen_failure] at checked
      exact read_eq_failure (described_expected _ rest) checked

/-- The third entry of these wallets is bad: it has an unknown code, no comma behind it, or no amount behind
it. -/
theorem first_bad_entry_third :
    let items : List Text := [" $3 ", "2.50 EUR\n"]
    let front : Text := Text.concat (items.map fun item => item ++ ("," : Text))
    ((∀ item ∈ items, ∃ money, Money.Item item money) ∧ ¬ Run isWhitespace "\t1 XYZ, 4 USD" ∧
      ¬ Run isWhitespace "1USD £2" ∧ ¬ Run isWhitespace "1USD ;") ∧
    (read (front ++ ("\t1 XYZ, 4 USD" : Text))).value = .failure (Money.unknownCurrency "XYZ") ∧
    (read (front ++ ("1USD £2" : Text))).value = .failure (.expected "',' or end of file" "£2") ∧
    (read (front ++ ("1USD ;" : Text))).value = .failure (.unexpected ";") := by
  intro items front
  have each : ∀ item ∈ items, ∃ money, Money.Item item money := by
    have first : (Money.read " $3 ").value = .ok ⟨.finite false 3 0, "USD"⟩ := by decide +kernel
    have second : (Money.read "2.50 EUR\n").value = .ok ⟨.finite false 250 (-2), "EUR"⟩ := by decide +kernel
    simp only [items, List.forall_mem_cons]
    exact ⟨⟨_, Money.item_of_read first⟩, ⟨_, Money.item_of_read second⟩, by simp⟩
  have unknown : ¬ Run isWhitespace "\t1 XYZ, 4 USD" := by decide
  have uncounted : ¬ Run isWhitespace "1USD £2" := by decide
  have unread : ¬ Run isWhitespace "1USD ;" := by decide
  refine ⟨⟨each, unknown, uncounted, unread⟩, ?_, ?_, ?_⟩
  · exact ((first_bad_entry each unknown).1 _ (by decide +kernel)).1
  · exact ((first_bad_entry each uncounted).2.1 ⟨.finite false 1 0, "USD"⟩ "£2" (by decide +kernel)
      (by decide) (by decide)).2 ⟨.finite false 2 0, "GBP"⟩ [] (by decide +kernel)
  · exact ((first_bad_entry each unread).2.1 ⟨.finite false 1 0, "USD"⟩ ";" (by decide +kernel)
      (by decide) (by decide)).1 _ (by decide +kernel)

end Wallet

end ParserAlgebra
