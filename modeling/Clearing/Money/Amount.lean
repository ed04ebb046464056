import Clearing.Decimal.Text
import Clearing.Money.Currency
/-!
Amounts of money.  An amount is a positive decimal with no more decimals than
its currency has, and not above a common maximum.  It keeps the scale it was
written with.
-/

namespace Clearing

/-- Why a number or a text is not an amount of money. -/
inductive MoneyError where
  | notPositive
  | tooPrecise (decimals : Nat) (currency : Currency)
  | tooLarge
  | badFormat (reason : String)
  | unsupportedCurrency (code : String)
deriving DecidableEq

/-- The largest amount, and the largest balance a credit may lead to. -/
def maximumAmount : Decimal where
  coefficient := 99999999999999999999
  scale := 2

def MoneyError.message : MoneyError → String
  | .notPositive => "amount must be greater than 0"
  | .tooPrecise decimals currency =>
      "precision overflow: provided " ++ toString decimals ++ " decimals, " ++
        currency.code ++ " allows " ++ toString currency.minorUnits
  | .tooLarge => "amount exceeds the maximum of " ++ maximumAmount.toText
  | .badFormat reason => "invalid amount format: " ++ reason
  | .unsupportedCurrency code =>
      "invalid currency: " ++ code ++ " (supported: TRY, USD, EUR)"

/-- Read a currency code, naming it as it was written when it is refused. -/
def Currency.parse (text : String) : Except MoneyError Currency :=
  match Currency.parse? text with
  | some currency => .ok currency
  | none => .error (.unsupportedCurrency text)

/-- An amount of a currency, written with any number of zeros at its end. -/
structure Amount (currency : Currency) where
  value : Decimal
  positive : Decimal.zero < value
  decimals_le : value.significantScale ≤ currency.minorUnits
  value_le : value ≤ maximumAmount
deriving DecidableEq

namespace Amount

/-- Check the sign, the decimals and the size of a number, in this order. -/
def ofDecimal (value : Decimal) (currency : Currency) :
    Except MoneyError (Amount currency) :=
  if positive : Decimal.zero < value then
    if decimals_le : value.significantScale ≤ currency.minorUnits then
      if value_le : value ≤ maximumAmount then
        .ok
          { value, positive, decimals_le, value_le }
      else
        .error .tooLarge
    else
      .error (.tooPrecise value.significantScale currency)
  else
    .error .notPositive

/-- The part before the first point, and the part behind it if there is one. -/
def splitAtPoint (characters : List Char) : List Char × Option (List Char) :=
  (characters.takeWhile (· ≠ '.'), (characters.dropWhile (· ≠ '.')).tail?)

/-- The number of a text that holds digits only, but for one point. -/
def ofPlain (characters : List Char) (currency : Currency) :
    Except MoneyError (Amount currency) :=
  match Decimal.parseCharacters characters with
  | .ok value => ofDecimal value currency
  | .error fault => .error (.badFormat fault.message)

/--
Read an amount as a person types it: digits, and a point with digits on both
sides of it or no point at all.
-/
def parse (text : String) (currency : Currency) :
    Except MoneyError (Amount currency) :=
  let characters := Text.trimmed text.toList
  let notPlain : Except MoneyError (Amount currency) :=
    .error (.badFormat ("not a plain decimal: " ++ String.ofList characters))
  if characters = [] then
    .error (.badFormat "empty string")
  else if characters.head? = some '-' then
    .error .notPositive
  else
    match splitAtPoint characters with
    | (whole, none) =>
        if whole.all Text.isDigit then ofPlain characters currency else notPlain
    | (whole, some fraction) =>
        if whole = [] then
          .error (.badFormat "missing leading zero (use 0.5 instead of .5)")
        else if fraction = [] then
          .error (.badFormat "missing fractional part (use 5.0 instead of 5.)")
        else if whole.all Text.isDigit && fraction.all Text.isDigit then
          ofPlain characters currency
        else
          notPlain

end Amount

end Clearing
