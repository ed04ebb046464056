import Clearing.Text.Ascii
import Clearing.Text.Blank
/-!
The supported currencies and their codes.
-/

namespace Clearing

inductive Currency where
  | lira
  | dollar
  | euro
deriving DecidableEq

namespace Currency

def all : List Currency := [.lira, .dollar, .euro]

def code : Currency → String
  | .lira => "TRY"
  | .dollar => "USD"
  | .euro => "EUR"

def minorUnits : Currency → Nat
  | .lira | .dollar | .euro => 2

def ofCode? (code : String) : Option Currency :=
  all.find? fun currency => currency.code == code

/-- The currency of a code in any case, with white space around it or not. -/
def parse? (text : String) : Option Currency :=
  ofCode? (Text.upperText (Text.trim text))

theorem ofCode?_code (currency : Currency) :
    ofCode? currency.code = some currency := by
  cases currency <;> decide

end Currency

end Clearing
