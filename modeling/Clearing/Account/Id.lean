import Clearing.Text.Ascii
import Clearing.Text.Split
/-!
Account identifiers: five groups of hexadecimal digits with hyphens between
them.  An identifier keeps the spelling in which it was given; two spellings
name the same account when they differ in the case of digits at most.
-/

namespace Clearing

/-- The numbers of digits in the groups of an identifier. -/
def accountGroups : List Nat := [8, 4, 4, 4, 12]

def isAccountId (characters : List Char) : Bool :=
  let groups := Text.pieces '-' characters
  groups.map List.length == accountGroups &&
    groups.all fun group => group.all Text.isHex

structure AccountId where
  text : String
  wellFormed : isAccountId text.toList = true
deriving DecidableEq

namespace AccountId

/-- The identifier of a text, if the text has the form of one. -/
def parse (text : String) : Option AccountId :=
  if wellFormed : isAccountId text.toList = true then
    some
      { text, wellFormed }
  else
    none

/-- Two spellings of one account. -/
def sameAccount (left right : AccountId) : Bool :=
  Text.equalIgnoringCase left.text right.text

end AccountId

end Clearing
