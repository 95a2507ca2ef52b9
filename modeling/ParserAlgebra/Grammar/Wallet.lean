import ParserAlgebra.Association
import ParserAlgebra.Number.Decimal
import ParserAlgebra.Parser.Lexeme
import ParserAlgebra.Parser.Numeral
import ParserAlgebra.Run

namespace ParserAlgebra

/-- An amount of money in one currency. -/
structure Money where
  amount : Decimal
  currency : Text
  deriving DecidableEq

/-- A wallet is a list of amounts. -/
structure Wallet where
  entries : List Money
  deriving DecidableEq

namespace Money

open ParserAlgebra.Parser

/-- This function writes an amount and its currency. -/
def text (money : Money) : Text :=
  Text.concat [money.amount.text, " ", money.currency]

/-- The currency codes in ascending order. -/
def currencyCodes : List Text :=
  ["AUD", "CAD", "CHF", "DKK", "EUR", "GBP", "JPY", "NOK", "SEK", "USD"]

/-- The currency symbols with their codes. -/
def currencySymbols : List (Text × Text) :=
  [("$", "USD"), ("€", "EUR"), ("£", "GBP"), ("¥", "JPY")]

/-- This function makes a decimal of all the digits before and after the point. -/
def makeAmount (whole : Text) (fraction : Option Text) : Decimal :=
  match fraction with
  | none => .finite false (numeralValue whole) 0
  | some places => .finite false (numeralValue (whole ++ places)) (-(places.length : Int))

/-- This parser reads digits with an optional fraction. -/
def amountParser : Parser Decimal :=
  ((succeed makeAmount).keep digits).keep
    (((succeed fun places => places).drop (string ".")).keep digits).optional

/-- This parser accepts a known currency code. -/
def checkCurrency (code : Text) : Parser Text :=
  if code ∈ currencyCodes then succeed code
  else fromResult (.error (.custom (Text.concat ["Unknown currency code '", code, "'."])))

/-- This parser reads a currency code: the longest run of upper case letters. -/
def codeParser : Parser Text :=
  (takeIfAndWhile isUppercase).andThen checkCurrency

/-- This parser reads a currency symbol as the code it stands for. -/
def symbolParser : Parser Text :=
  oneOf (currencySymbols.map fun entry => (string entry.1).map fun _ => entry.2)

/-- This parser reads a symbol before an amount. -/
def symbolMoney : Parser Money :=
  (((succeed fun code value => Money.mk value code).keep symbolParser).drop spaces).keep
    amountParser

/-- This parser reads a code behind an amount. -/
def codeMoney : Parser Money :=
  (((succeed fun value code => Money.mk value code).keep amountParser).drop spaces).keep codeParser

/-- This parser reads an amount of money. -/
def moneyParser : Parser Money :=
  oneOf [symbolMoney, codeMoney]

/-- This function reads a text that holds one amount of money. -/
def read (source : Text) : Logged (Verdict Money) :=
  run source ((token moneyParser).drop endOfFile)

end Money

namespace Wallet

open ParserAlgebra.Parser

/-- This function adds an amount to the total of its currency, or to zero if there is none yet. -/
def addTotal (totals : List (Text × Decimal)) (money : Money) :
    Except Fault (List (Text × Decimal)) := do
  let old := (Association.find? money.currency totals).getD (.finite false 0 0)
  let sum ← old.add money.amount
  return Association.insert money.currency sum totals

/-- This function sums the amounts of each currency, in order of first appearance. -/
def totals (wallet : Wallet) : Except Fault (List (Text × Decimal)) :=
  wallet.entries.foldlM addTotal []

/-- This function lists the wallets that arise when the entries are added one by one. -/
def stages (wallet : Wallet) : List Wallet :=
  (List.range wallet.entries.length).map fun count => ⟨wallet.entries.take (count + 1)⟩

/-- This function says why the leftover input is no entry, or that an entry misses the comma before it. -/
def checkLeftover (leftover : Text) : Logged (Verdict Unit) :=
  if leftover.isEmpty then pure (.ok ())
  else do
    match ← run leftover (token Money.moneyParser) with
    | .ok _ => return .failure (.expected "',' or end of file" leftover)
    | .failure reason => return .failure reason
    | .fault reason => return .fault reason

/-- This parser consumes the leftover input and checks that there is none. -/
def endOfEntries : Parser Unit :=
  (takeWhile fun _ => true).andThen fun leftover => fromVerdict (checkLeftover leftover)

/-- This parser reads a wallet that spans the whole input. -/
def walletParser : Parser Wallet :=
  (((succeed Wallet.mk).keep (many (token Money.moneyParser) (string ","))).drop whitespace).drop
    endOfEntries

/-- This function reads a text that holds a wallet. -/
def read (source : Text) : Logged (Verdict Wallet) := do
  Logged.tell .wallet (Text.concat ["Parsing wallet from ", source.quoted])
  run source walletParser

end Wallet

end ParserAlgebra
